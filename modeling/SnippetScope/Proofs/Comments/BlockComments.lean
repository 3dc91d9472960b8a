/-
  SnippetScope.Proofs.Comments.BlockComments

  Code with block comments in it.  Lines are cut before blocks are removed, so
  a line mark inside a comment can take the closing mark with it.  Where the
  closing marks that count stand before any line mark (`ClosersShow`), exactly
  the comments are removed (`stripComments_commented`).
-/
import SnippetScope.Proofs.Comments.Blocks
import SnippetScope.Proofs.Comments.LineCuts

namespace SnippetScope

open Pattern (StartsNowhere)

/-! ## Code with comments -/

/-- A block comment, and the code behind it. -/
structure Commented where
  body : List Char
  code : List Char
  deriving DecidableEq, Repr

/-- The comment with its marks, and the code. -/
def Commented.text (c : Commented) : List Char :=
  "/*".toList ++ (c.body ++ ("*/".toList ++ c.code))

/-- No line mark stands before a closing mark in its line, unless the next
    comment follows at once. -/
def ClosersShow (before : List Char) : List Commented → Prop
  | [] => True
  | c :: rest =>
    (c.code ≠ [] ∨ rest = [] →
        ¬ "//".toList <:+: lastLine (before ++ ("/*".toList ++ c.body)))
      ∧ ClosersShow (before ++ c.text) rest

instance decidableClosersShow : (before : List Char) → (comments : List Commented) →
    Decidable (ClosersShow before comments)
  | _, [] => isTrue trivial
  | before, c :: rest =>
    have := decidableClosersShow (before ++ c.text) rest
    inferInstanceAs (Decidable (_ ∧ _))

/-- A comment without code behind it and the next one, as one comment. -/
theorem Commented.text_append_text (bodies body code : List Char) :
    Commented.text ⟨bodies, []⟩ ++ Commented.text ⟨body, code⟩
      = Commented.text ⟨bodies ++ ("*//*".toList ++ body), code⟩ := by
  have hmarks : "*//*".toList = "*/".toList ++ "/*".toList := rfl
  simp only [Commented.text, hmarks, List.append_assoc, List.nil_append]

namespace ClosersShow

variable {before bodies body code : List Char} {rest : List Commented}

theorem not_infix_lastLine (h : ClosersShow before (⟨bodies, code⟩ :: rest))
    (hlast : code ≠ [] ∨ rest = []) : ¬ "//".toList <:+: lastLine bodies := by
  intro hin
  refine h.1 hlast (hin.trans ?_)
  rw [← List.append_assoc]
  exact (lastLine_suffix _ bodies).isInfix

/-- Two comments side by side can be taken as one. -/
theorem merge (h : ClosersShow before (⟨bodies, []⟩ :: ⟨body, code⟩ :: rest)) :
    ClosersShow before (⟨bodies ++ ("*//*".toList ++ body), code⟩ :: rest) := by
  obtain ⟨-, hfirst, hlater⟩ := h
  rw [List.append_assoc, Commented.text_append_text] at hlater
  refine ⟨fun hlast => ?_, hlater⟩
  have hmarks : "*//*".toList = "*/".toList ++ "/*".toList := rfl
  have hbefore := hfirst hlast
  simp only [Commented.text, List.append_assoc, List.nil_append] at hbefore
  simp only [hmarks, List.append_assoc]
  exact hbefore

end ClosersShow

/-! ## Comments side by side -/

/-- Bodies of comments, with a closing mark and an opening one between each two. -/
inductive SideBySide : List Char → Prop where
  | body {body : List Char} (hbody : ¬ "*/".toList <:+: body) : SideBySide body
  | more {body rest : List Char} (hbody : ¬ "*/".toList <:+: body) (hrest : SideBySide rest) :
      SideBySide (body ++ ("*//*".toList ++ rest))

namespace SideBySide

variable {bodies rest : List Char}

theorem concat {body : List Char} (h : SideBySide bodies) (hbody : ¬ "*/".toList <:+: body) :
    SideBySide (bodies ++ ("*//*".toList ++ body)) := by
  induction h with
  | body hfirst => exact .more hfirst (.body hbody)
  | more hfirst _ ih =>
      simp only [List.append_assoc] at ih ⊢
      exact .more hfirst ih

/-- What stands behind a line are bodies side by side again. -/
theorem behind_line (h : SideBySide bodies) (hrest : afterLine bodies = '\n' :: rest) :
    SideBySide rest := by
  induction h with
  | @body body hbody =>
      rcases Text.not_mem_or_exists_first '\n' body with hline | ⟨line, behind, hline, rfl⟩
      · rw [afterLine_of_not_mem hline] at hrest
        cases hrest
      · rw [afterLine_append hline, afterLine_cons] at hrest
        obtain rfl := (List.cons.inj hrest).2
        exact .body fun hin => hbody ((infix_append_cons_iff (by decide)).mpr (.inr hin))
  | @more body more hbody hmore ih =>
      rcases Text.not_mem_or_exists_first '\n' body with hline | ⟨line, behind, hline, rfl⟩
      · rw [afterLine_append hline, afterLine_append (by decide)] at hrest
        exact ih hrest
      · rw [List.append_assoc, List.cons_append, afterLine_append hline, afterLine_cons] at hrest
        obtain rfl := (List.cons.inj hrest).2
        exact .more (fun hin => hbody ((infix_append_cons_iff (by decide)).mpr (.inr hin))) hmore

end SideBySide

/-- A mark of two characters starts nowhere if it is not in the text and its
    second character does not follow. -/
theorem startsNowhere_pair {a b : Char} {text behind : List Char} (h : ¬ [a, b] <:+: text)
    (hbehind : behind.head? ≠ some b) : StartsNowhere [a, b] text behind := by
  intro rest hne hrest hmark
  match rest, hne with
  | [c], _ =>
      obtain ⟨-, hb⟩ := List.cons_prefix_cons.mp hmark
      obtain ⟨tail, rfl⟩ := hb
      exact hbehind rfl
  | c :: d :: tail, _ =>
      obtain ⟨rfl, hb⟩ := List.cons_prefix_cons.mp hmark
      obtain ⟨rfl, -⟩ := List.cons_prefix_cons.mp hb
      exact h ((List.prefix_append [a, b] tail).isInfix.trans hrest.isInfix)

/-- Behind a line mark nothing is left of the line. -/
theorem cutLines_lineMark (text : List Char) :
    cutLines "//".toList ('/' :: '/' :: text) = cutLines "//".toList (afterLine text) :=
  cutLines_append_of_marked (by decide : "//".toList <:+: lastLine "//".toList) text

/-- Where a comment ends and another one begins, the star before the line mark
    is kept, and the line is cut. -/
theorem cutLines_between (text : List Char) :
    cutLines "//".toList ("*//*".toList ++ text)
      = '*' :: cutLines "//".toList (afterLine text) := by
  have hstar : ¬ "//".toList <+: '*' :: '/' :: '/' :: '*' :: text :=
    fun h => absurd (List.cons_prefix_cons.mp h).1 (by decide)
  have hline : afterLine ('*' :: text) = afterLine text :=
    afterLine_append (by decide : '\n' ∉ ['*']) text
  calc cutLines "//".toList ('*' :: '/' :: '/' :: '*' :: text)
      = '*' :: cutLines "//".toList ('/' :: '/' :: '*' :: text) := cutLines_cons hstar
    _ = '*' :: cutLines "//".toList (afterLine text) := by rw [cutLines_lineMark, hline]

/-- A closing mark stands before a cut or in the lines behind it. -/
theorem closing_not_infix_append {front text : List Char} (hfront : ¬ "*/".toList <:+: front)
    (htext : ∀ rest, afterLine text = '\n' :: rest →
      ¬ "*/".toList <:+: cutLines "//".toList rest) :
    ¬ "*/".toList <:+: front ++ cutLines "//".toList (afterLine text) := by
  rcases afterLine_cases text with hnone | ⟨rest, hrest⟩
  · rw [hnone, cutLines_nil, List.append_nil]
    exact hfront
  · rw [hrest, cutLines_lineFeed, infix_append_cons_iff (by decide), not_or]
    exact ⟨hfront, htext rest hrest⟩

/-- Between bodies side by side the closing marks go with their lines. -/
theorem SideBySide.closing_not_infix {bodies : List Char} (h : SideBySide bodies) :
    ¬ "*/".toList <:+: cutLines "//".toList bodies := by
  -- What stands behind a line is shorter, so the induction is on the length.
  generalize hn : bodies.length = n
  induction n using Nat.strongRecOn generalizing bodies with
  | ind n ih =>
      subst hn
      cases h with
      | body hbody => exact fun hin => hbody (infix_of_infix_cutLines (by decide) hin)
      | @more body rest hbody hrest =>
          have hfront : ¬ "*/".toList <:+: cutLines "//".toList body :=
            fun hin => hbody (infix_of_infix_cutLines (by decide) hin)
          have hlater : ∀ behind, afterLine rest = '\n' :: behind →
              ¬ "*/".toList <:+: cutLines "//".toList behind := by
            intro behind hbehind
            have hlength := List.length_dropWhile_le (· ≠ '\n') rest
            rw [← afterLine, hbehind, List.length_cons] at hlength
            refine ih behind.length ?_ (hrest.behind_line hbehind) rfl
            simp only [List.length_append]
            omega
          by_cases hmarked : "//".toList <:+: lastLine body
          · rw [cutLines_append_of_marked hmarked, afterLine_append (by decide)]
            exact closing_not_infix_append hfront hlater
          · -- The line mark between the bodies is the first one of its line.
            have hnowhere : StartsNowhere "//".toList (lastLine body) ("*//*".toList ++ rest) :=
              startsNowhere_pair (a := '/') (b := '/') hmarked (by simp)
            rw [cutLines_append_of_startsNowhere hnowhere, cutLines_between,
              ← List.singleton_append, ← List.append_assoc]
            refine closing_not_infix_append (fun hin => ?_) hlater
            rcases List.infix_concat_iff.mp hin with hend | hin
            · have hlast := hend.getLast (by decide)
              simp at hlast
            · exact hfront hin

/-! ## From the text to the code -/

/-- What is left without blocks of a text whose lines have been cut. -/
def Leaves (text code : List Char) : Prop :=
  WithoutBlocks "/*" "*/" (cutLines "//".toList text) code

/-- Code is left as it is. -/
theorem leaves_code {code text rest : List Char} (hcode : '/' ∉ code) (h : Leaves text rest) :
    Leaves (code ++ text) (code ++ rest) := by
  have hnowhere : StartsNowhere "//".toList code text := by
    intro behind hne hbehind hmark
    obtain ⟨c, tail, rfl⟩ := List.exists_cons_of_ne_nil hne
    have hc : '/' = c := (List.cons_prefix_cons.mp hmark).1
    exact hcode (hbehind.subset (hc ▸ List.mem_cons_self))
  rw [Leaves, cutLines_append_of_plain hnowhere]
  clear hnowhere
  induction code with
  | nil => exact h
  | cons c code ih =>
      obtain ⟨hc, hrest⟩ := List.ne_and_not_mem_of_not_mem_cons hcode
      exact .kept (fun hopening => hc (List.cons_prefix_cons.mp hopening).1) (ih hrest)

theorem leaves_nil : Leaves [] [] := by
  rw [Leaves, cutLines_nil]
  exact .done

/-- Comments side by side are left out if the last closing mark shows. -/
theorem leaves_comments {bodies text code : List Char} (hbodies : SideBySide bodies)
    (hshow : ¬ "//".toList <:+: lastLine bodies) (hbehind : text.head? ≠ some '/')
    (h : Leaves text code) :
    Leaves ("/*".toList ++ (bodies ++ ("*/".toList ++ text))) code := by
  have hopening : ∀ behind, cutLines "//".toList ("/*".toList ++ behind)
      = "/*".toList ++ cutLines "//".toList behind := by
    intro behind
    have hslash : ¬ "//".toList <+: '/' :: '*' :: behind := fun h =>
      absurd (List.cons_prefix_cons.mp (List.cons_prefix_cons.mp h).2).1 (by decide)
    have hstar : ¬ "//".toList <+: '*' :: behind := fun h =>
      absurd (List.cons_prefix_cons.mp h).1 (by decide)
    exact (cutLines_cons hslash).trans (congrArg ('/' :: ·) (cutLines_cons hstar))
  have hbefore : StartsNowhere "//".toList (lastLine bodies) ("*/".toList ++ text) :=
    startsNowhere_pair (a := '/') (b := '/') hshow (by simp)
  have hclosing : StartsNowhere "//".toList "*/".toList text :=
    startsNowhere_pair (a := '/') (b := '/') (by decide) hbehind
  rw [Leaves, hopening, cutLines_append_of_startsNowhere hbefore,
    cutLines_append_of_plain hclosing]
  exact .block (startsNowhere_pair (a := '*') (b := '/') hbodies.closing_not_infix (by simp)) h

/-- Comments side by side and those that follow are left out. -/
theorem leaves_commented {before bodies code : List Char} {rest : List Commented}
    (hbodies : SideBySide bodies) (hcode : '/' ∉ code) (hcodes : ∀ c ∈ rest, '/' ∉ c.code)
    (hrest : ∀ c ∈ rest, ¬ "*/".toList <:+: c.body)
    (hshow : ClosersShow before (⟨bodies, code⟩ :: rest)) :
    Leaves (Commented.text ⟨bodies, code⟩ ++ rest.flatMap Commented.text)
      (code ++ rest.flatMap Commented.code) := by
  induction rest generalizing before bodies code with
  | nil =>
      have hbehind : (code ++ []).head? ≠ some '/' := fun h =>
        hcode (by simpa using List.mem_of_head? h)
      have hleaves := leaves_comments hbodies (hshow.not_infix_lastLine (.inr rfl)) hbehind
        (leaves_code hcode leaves_nil)
      simpa only [Commented.text, List.flatMap_nil, List.append_nil] using hleaves
  | cons next rest ih =>
      obtain ⟨body, behind⟩ := next
      obtain ⟨hbody, hrest⟩ := List.forall_mem_cons.mp hrest
      obtain ⟨hbehind, hcodes⟩ := List.forall_mem_cons.mp hcodes
      rw [List.flatMap_cons, List.flatMap_cons]
      by_cases hempty : code = []
      · -- The next comment follows at once, so that both are comments side by side.
        subst hempty
        rw [← List.append_assoc, Commented.text_append_text, List.nil_append]
        exact ih (hbodies.concat hbody) hbehind hcodes hrest hshow.merge
      · have hlater := ih (.body hbody) hbehind hcodes hrest hshow.2
        have hhead : (code ++ (Commented.text ⟨body, behind⟩
            ++ rest.flatMap Commented.text)).head? ≠ some '/' := by
          obtain ⟨c, tail, rfl⟩ := List.exists_cons_of_ne_nil hempty
          intro h
          exact hcode (Option.some.inj h ▸ List.mem_cons_self)
        have hleaves := leaves_comments hbodies (hshow.not_infix_lastLine (.inl hempty)) hhead
          (leaves_code hcode hlater)
        simpa only [Commented.text, List.append_assoc] using hleaves

/-! ## Removing comments -/

/-- In a language with these marks one pass takes a text to what it leaves. -/
theorem removeComments_of_leaves {language : Language}
    (hlanguage : language ∈ [.c, .cpp, .java, .go, .rust]) {text code : List Char}
    (h : Leaves text code) : removeComments language.commentRules text = code := by
  have hrules : language.commentRules = [.toLineEnd "//", .between "/*" "*/"] := by
    simp only [List.mem_cons, List.not_mem_nil, or_false] at hlanguage
    rcases hlanguage with rfl | rfl | rfl | rfl | rfl <;> rfl
  rw [hrules, removeComments, List.foldl_cons, List.foldl_cons, List.foldl_nil,
    remove_toLineEnd (by decide) (by decide)]
  exact remove_between (by decide) h

/-- Block comments are removed and the code around them is kept, whatever the
    comments say, as long as their closing marks show. -/
theorem stripComments_commented {language : Language}
    (hlanguage : language ∈ [.c, .cpp, .java, .go, .rust]) {first : List Char}
    {comments : List Commented} (hfirst : '/' ∉ first) (hcodes : ∀ c ∈ comments, '/' ∉ c.code)
    (hbodies : ∀ c ∈ comments, ¬ "*/".toList <:+: c.body) (hshow : ClosersShow first comments) :
    stripComments language (first ++ comments.flatMap Commented.text)
      = first ++ comments.flatMap Commented.code := by
  have hcomments : Leaves (comments.flatMap Commented.text) (comments.flatMap Commented.code) := by
    cases comments with
    | nil => exact leaves_nil
    | cons c rest =>
        obtain ⟨hcode, hcodes⟩ := List.forall_mem_cons.mp hcodes
        obtain ⟨hbody, hbodies⟩ := List.forall_mem_cons.mp hbodies
        exact leaves_commented (.body hbody) hcode hcodes hbodies hshow
  have hleaves := leaves_code hfirst hcomments
  -- The code has no mark in it, so that a second pass changes nothing.
  have hplain : '/' ∉ first ++ comments.flatMap Commented.code := by
    rw [List.mem_append, List.mem_flatMap, not_or]
    exact ⟨hfirst, fun ⟨c, hc, hslash⟩ => hcodes c hc hslash⟩
  have hfixed : Leaves (first ++ comments.flatMap Commented.code)
      (first ++ comments.flatMap Commented.code) := by
    simpa using leaves_code hplain leaves_nil
  rw [stripComments, ← stripWith_removeComments, removeComments_of_leaves hlanguage hleaves]
  exact stripWith_of_fixed (removeComments_of_leaves hlanguage hfixed)

/-- Two comments side by side that hold line marks, and code around them. -/
def addresses : List Commented :=
  [⟨" http://x\n".toList, []⟩, ⟨" //y\n ".toList, " b\n".toList⟩]

theorem stripComments_addresses :
    ClosersShow "a".toList addresses
      ∧ stripComments .c ("a".toList ++ addresses.flatMap Commented.text) = "a b\n".toList := by
  have hshow : ClosersShow "a".toList addresses := by decide
  exact ⟨hshow, stripComments_commented (by decide) (by decide) (by decide) (by decide) hshow⟩

/-- Behind a line mark the closing mark is lost, and with it the code. -/
theorem not_stripComments_commented :
    ¬ ∀ (first : List Char) (comments : List Commented), '/' ∉ first →
        (∀ c ∈ comments, '/' ∉ c.code) → (∀ c ∈ comments, ¬ "*/".toList <:+: c.body) →
        stripComments .c (first ++ comments.flatMap Commented.text)
          = first ++ comments.flatMap Commented.code := by
  intro h
  have haddress := h [] [⟨" http://x ".toList, "int x;\n".toList⟩] (by decide) (by decide)
    (by decide)
  have hunclosed : ¬ Language.HasBlockComment .c
      (Language.withoutLineComments .c "/* http://x */int x;\n".toList) := by
    rintro ⟨marks, hmarks, body, hin⟩
    obtain rfl : marks = ("/*", "*/") := by simpa [Language.blockMarks] using hmarks
    have hclosing : "*/".toList <:+: Language.withoutLineComments .c
        "/* http://x */int x;\n".toList := (List.suffix_append _ _).isInfix.trans hin
    exact absurd hclosing (by decide)
  have hstrip : stripComments .c "/* http://x */int x;\n".toList = "/* http:\n".toList :=
    Language.stripComments_eq_withoutLineComments hunclosed
  exact absurd (hstrip.symm.trans haddress) (by decide)

end SnippetScope
