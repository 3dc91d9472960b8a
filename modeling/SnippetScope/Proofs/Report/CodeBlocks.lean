/-
  SnippetScope.Proofs.Report.CodeBlocks

  Blocks of code in documentation that is laid out for a terminal.  The layout
  goes line by line and keeps nothing but whether a block is open, which only a
  fence changes (`layoutLines_append`).  The main statement says what is printed
  for a block (`layoutText_block`): its lines as they are, each behind a bar,
  except those that start like a heading, which are shown as outside of a block.
-/
import SnippetScope.Report.Pretty
import Mathlib.Algebra.Ring.Parity
import Mathlib.Data.List.Basic

namespace SnippetScope.Report

/-! ## Kinds of lines -/

/-- The line opens or closes a block of code. -/
def isFence (line : List Char) : Bool :=
  Docs.fence.toList.isPrefixOf line

/-- The line starts like a heading. -/
def isHeading (line : List Char) : Bool :=
  ["# ", "## ", "### "].any fun mark => mark.toList.isPrefixOf line

theorem isHeading_eq (line : List Char) :
    isHeading line = (("# ".toList.isPrefixOf? line).isSome
      || ("## ".toList.isPrefixOf? line).isSome || ("### ".toList.isPrefixOf? line).isSome) := by
  simp only [isHeading, List.any_cons, List.any_nil, Bool.or_false, Bool.or_assoc,
    List.isSome_isPrefixOf?_eq_isPrefixOf]

/-- A line that does not start like a heading is none. -/
theorem roleOf_of_not_heading {line : List Char} (h : isHeading line = false) :
    roleOf line = if isFence line then .fence else .other := by
  rw [isHeading_eq, Bool.or_eq_false_iff, Bool.or_eq_false_iff] at h
  simp only [Option.isSome_eq_false_iff, Option.isNone_iff_eq_none] at h
  obtain ⟨⟨htitle, hheading⟩, hsubheading⟩ := h
  rw [roleOf, htitle, hheading, hsubheading]
  rfl

/-- A line that starts like a heading is one, so that it is no fence. -/
theorem roleOf_of_heading {line : List Char} (h : isHeading line = true) :
    roleOf line ≠ .fence ∧ roleOf line ≠ .other := by
  rw [isHeading_eq] at h
  rw [roleOf]
  cases htitle : "# ".toList.isPrefixOf? line with
  | some text => exact ⟨nofun, nofun⟩
  | none =>
      cases hheading : "## ".toList.isPrefixOf? line with
      | some text => exact ⟨nofun, nofun⟩
      | none =>
          cases hsubheading : "### ".toList.isPrefixOf? line with
          | some text => exact ⟨nofun, nofun⟩
          | none =>
              rw [htitle, hheading, hsubheading] at h
              cases h

theorem isFence_of_heading {line : List Char} (h : isHeading line = true) :
    isFence line = false := by
  -- The first character tells the two apart.
  rw [isHeading, List.any_eq_true] at h
  obtain ⟨mark, hmark, hprefix⟩ := h
  obtain ⟨rest, rfl⟩ := List.isPrefixOf_iff_prefix.mp hprefix
  simp only [List.mem_cons, List.not_mem_nil, or_false] at hmark
  rcases hmark with rfl | rfl | rfl <;> rfl

/-! ## One line after the other -/

section

variable {line : List Char}

/-- A heading is laid out alike inside and outside of a block. -/
theorem layoutLines_of_heading (h : isHeading line = true) (inCode : Bool)
    (rest : List (List Char)) :
    layoutLines inCode (line :: rest) = layoutLines false [line] ++ layoutLines inCode rest := by
  obtain ⟨hfence, hother⟩ := roleOf_of_heading h
  cases hrole : roleOf line with
  | title text => simp only [layoutLines, hrole, List.append_nil]
  | heading text => simp only [layoutLines, hrole, List.append_nil]
  | subheading text => simp only [layoutLines, hrole, List.append_nil]
  | fence => exact absurd hrole hfence
  | other => exact absurd hrole hother

theorem layoutLines_of_fence (h : isFence line = true) (inCode : Bool)
    (rest : List (List Char)) :
    layoutLines inCode (line :: rest)
      = (if inCode then frame "└" "┘" else frame "┌" "┐") ++ layoutLines (!inCode) rest := by
  have hheading : isHeading line = false := by
    by_contra hheading
    rw [Bool.not_eq_false] at hheading
    rw [isFence_of_heading hheading] at h
    cases h
  have hrole : roleOf line = .fence := by
    rw [roleOf_of_not_heading hheading, h]
    rfl
  simp only [layoutLines, hrole]

theorem layoutLines_of_other (hheading : isHeading line = false) (hfence : isFence line = false)
    (inCode : Bool) (rest : List (List Char)) :
    layoutLines inCode (line :: rest)
      = (if inCode then plainLine ("│ " ++ String.ofList line) else textLine line)
        ++ layoutLines inCode rest := by
  have hrole : roleOf line = .other := by
    rw [roleOf_of_not_heading hheading, hfence]
    rfl
  simp only [layoutLines, hrole]

/-- Only a fence changes the layout of the lines behind it. -/
theorem layoutLines_cons (inCode : Bool) (line : List Char) (rest : List (List Char)) :
    layoutLines inCode (line :: rest)
      = layoutLines inCode [line] ++ layoutLines (inCode != isFence line) rest := by
  cases hheading : isHeading line with
  | true =>
      rw [layoutLines_of_heading hheading, layoutLines_of_heading hheading inCode [],
        isFence_of_heading hheading, Bool.bne_false]
      simp only [layoutLines, List.append_nil]
  | false =>
      cases hfence : isFence line with
      | true =>
          rw [layoutLines_of_fence hfence, layoutLines_of_fence hfence, Bool.bne_true]
          simp only [layoutLines, List.append_nil]
      | false =>
          rw [layoutLines_of_other hheading hfence, layoutLines_of_other hheading hfence,
            Bool.bne_false]
          simp only [layoutLines, List.append_nil]

end

/-- Whether a block is open after the lines. -/
def openAfter (inCode : Bool) (lines : List (List Char)) : Bool :=
  lines.foldl (fun mode line => mode != isFence line) inCode

/-- A block is left open by an odd number of fences. -/
theorem openAfter_eq (inCode : Bool) (lines : List (List Char)) :
    openAfter inCode lines = (inCode != decide (lines.countP isFence % 2 = 1)) := by
  induction lines generalizing inCode with
  | nil => simp [openAfter]
  | cons line lines ih =>
      have hstep : openAfter inCode (line :: lines) = openAfter (inCode != isFence line) lines := rfl
      rw [hstep, ih, List.countP_cons]
      cases hfence : isFence line with
      | false => simp
      | true =>
          have hparity : (lines.countP isFence + 1) % 2 = 1 ↔ ¬ lines.countP isFence % 2 = 1 := by
            omega
          simp only [if_true, hparity, decide_not]
          cases inCode <;> cases decide (lines.countP isFence % 2 = 1) <;> rfl

/-- Lines are laid out one after the other, the later ones according to whether
    the earlier ones leave a block open. -/
theorem layoutLines_append (inCode : Bool) (a b : List (List Char)) :
    layoutLines inCode (a ++ b) = layoutLines inCode a ++ layoutLines (openAfter inCode a) b := by
  induction a generalizing inCode with
  | nil => rfl
  | cons line a ih =>
      rw [List.cons_append, layoutLines_cons, ih, layoutLines_cons inCode line a, List.append_assoc]
      rfl

/-! ## What is printed -/

/-- A line of a block of code as it is printed. -/
def blockLine (colours : Bool) (line : List Char) : String :=
  if isHeading line then writeSpans colours (layoutLines false [line])
  else "│ " ++ String.ofList line ++ "\n"

theorem writeSpans_append (colours : Bool) (a b : List Span) :
    writeSpans colours (a ++ b) = writeSpans colours a ++ writeSpans colours b := by
  rw [writeSpans, List.flatMap_append, String.ofList_append]
  rfl

theorem writeSpans_plainLine (colours : Bool) (text : String) :
    writeSpans colours (plainLine text) = text ++ "\n" := by
  simp [writeSpans, plainLine, lineEnd, Span.write, String.ofList_append]

/-- A block without its fences is printed line by line. -/
theorem writeSpans_block {block : List (List Char)} (h : ∀ line ∈ block, isFence line = false)
    (colours : Bool) :
    writeSpans colours (layoutLines true block) = String.join (block.map (blockLine colours)) := by
  induction block with
  | nil => rfl
  | cons line block ih =>
      obtain ⟨hline, hblock⟩ := List.forall_mem_cons.mp h
      rw [List.map_cons, String.join_cons, ← ih hblock, blockLine]
      cases hheading : isHeading line with
      | true => rw [layoutLines_of_heading hheading, writeSpans_append, if_pos rfl]
      | false =>
          rw [layoutLines_of_other hheading hline, if_pos rfl, writeSpans_append,
            writeSpans_plainLine, if_neg Bool.false_ne_true]

theorem openAfter_of_no_fence {lines : List (List Char)}
    (h : ∀ line ∈ lines, isFence line = false) (inCode : Bool) :
    openAfter inCode lines = inCode := by
  have hnone : lines.countP isFence = 0 := by
    rw [List.countP_eq_zero]
    intro line hline
    rw [h line hline]
    exact Bool.false_ne_true
  simp [openAfter_eq, hnone]

/-- Printed documentation in which a framed block shows the text. -/
def aroundBlock (colours : Bool) (title : String) (before : List (List Char)) (shown : String)
    (after : List (List Char)) : String :=
  writeSpans colours (emptyLine ++ bar
      ++ [.plain " ", strong (centred (columns - 2) title), .plain " ", lineEnd] ++ bar
      ++ layoutLines false before ++ frame "┌" "┐")
    ++ shown
    ++ writeSpans colours (frame "└" "┘" ++ layoutLines false after ++ emptyLine ++ bar)

theorem aroundBlock_inj {colours : Bool} {title : String} {before after : List (List Char)}
    {a b : String} (h : aroundBlock colours title before a after
      = aroundBlock colours title before b after) : a = b := by
  rw [aroundBlock, aroundBlock, ← String.toList_inj] at h
  simp only [String.toList_append] at h
  exact String.toList_inj.mp (List.append_cancel_left (List.append_cancel_right h))

/-- A block stands in its frame if no block is open before it. -/
theorem layoutText_framed {documentation : String} {before block after : List (List Char)}
    {opening closing : List Char}
    (hlines : Text.lines documentation.toList = before ++ opening :: (block ++ closing :: after))
    (hbefore : Even (before.countP isFence)) (hopening : isFence opening = true)
    (hblock : ∀ line ∈ block, isFence line = false) (hclosing : isFence closing = true)
    (colours : Bool) (title : String) :
    layoutText colours documentation title
      = aroundBlock colours title before (writeSpans colours (layoutLines true block)) after := by
  have hclosed : openAfter false before = false := by
    have hnot : ¬ before.countP isFence % 2 = 1 := by
      rw [← Nat.odd_iff, Nat.not_odd_iff_even]
      exact hbefore
    rw [openAfter_eq, decide_eq_false hnot]
    rfl
  have hall : layoutLines false (Text.lines documentation.toList)
      = layoutLines false before ++ (frame "┌" "┐" ++ (layoutLines true block
        ++ (frame "└" "┘" ++ layoutLines false after))) := by
    rw [hlines, layoutLines_append, hclosed, layoutLines_of_fence hopening, layoutLines_append]
    rw [Bool.not_false, openAfter_of_no_fence hblock, layoutLines_of_fence hclosing]
    rfl
  rw [layoutText, layout, hall, aroundBlock, ← writeSpans_append, ← writeSpans_append]
  simp only [List.append_assoc]

/-- What is printed for a block of code in documentation.  Its lines are shown
    as they are, without regard to blanks or bullets; only a line that starts
    like a heading is shown as one, in a block as anywhere. -/
theorem layoutText_block {documentation : String} {before block after : List (List Char)}
    {opening closing : List Char}
    (hlines : Text.lines documentation.toList = before ++ opening :: (block ++ closing :: after))
    (hbefore : Even (before.countP isFence)) (hopening : isFence opening = true)
    (hblock : ∀ line ∈ block, isFence line = false) (hclosing : isFence closing = true)
    (colours : Bool) (title : String) :
    layoutText colours documentation title
      = aroundBlock colours title before (String.join (block.map (blockLine colours))) after := by
  rw [layoutText_framed hlines hbefore hopening hblock hclosing, writeSpans_block hblock]

/-- Documentation with a block that holds an item, an empty line and a remark. -/
def recipe : String := "Run:\n```sh\n- make\n\n# test\n```\n"

theorem layoutText_block_recipe :
    layoutText false recipe "Recipe" = aroundBlock false "Recipe" ["Run:".toList]
      "│ - make\n│ \n\nTEST\n───────\n" [] := by
  have hlines : Text.lines recipe.toList = ["Run:".toList] ++ "```sh".toList
      :: (["- make".toList, [], "# test".toList] ++ "```".toList :: []) := by decide
  have hblock : ∀ line ∈ ["- make".toList, [], "# test".toList], isFence line = false := by decide
  have hshown : String.join (["- make".toList, [], "# test".toList].map (blockLine false))
      = "│ - make\n│ \n\nTEST\n───────\n" := by decide
  rw [← hshown]
  exact layoutText_block hlines (by decide) (by decide) hblock (by decide) false "Recipe"

/-- Not every line of a block is shown as it is: a remark that starts like a
    heading is not. -/
theorem heading_within_block :
    ¬ ∀ (documentation title : String) (before block after : List (List Char))
        (opening closing : List Char),
        Text.lines documentation.toList = before ++ opening :: (block ++ closing :: after) →
        Even (before.countP isFence) → isFence opening = true →
        (∀ line ∈ block, isFence line = false) → isFence closing = true →
        layoutText false documentation title = aroundBlock false title before
          (String.join (block.map fun line => "│ " ++ String.ofList line ++ "\n")) after := by
  intro h
  have hlines : Text.lines "```sh\n# make\n```".toList
      = [] ++ "```sh".toList :: (["# make".toList] ++ "```".toList :: []) := by decide
  have hblock : ∀ line ∈ ["# make".toList], isFence line = false := by decide
  have hclaimed := h _ "" [] _ [] _ _ hlines (by decide) (by decide) hblock (by decide)
  have hframed := layoutText_framed hlines (by decide) (by decide) hblock (by decide) false ""
  have hsame := aroundBlock_inj (hframed.symm.trans hclaimed)
  rw [writeSpans_block hblock] at hsame
  revert hsame
  decide

end SnippetScope.Report
