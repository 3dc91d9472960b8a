/-
  SnippetScope.Settings.Reading

  Reading the settings from a YAML text.
-/
import SnippetScope.Settings
import SnippetScope.Text.Blank
import SnippetScope.Yaml.Record

namespace SnippetScope

open Yaml (Node)

/-- The settings of the text model in a document. -/
def ModelSettings.ofNode? (root node : Node) : Option ModelSettings := do
  let members ← Node.members? root node
  let standard : ModelSettings := {}
  return {
    enabled := ← Node.fieldOr? "enabled" standard.enabled (Node.flag? root) members
    model := ← Node.fieldOr? "model" standard.model (Node.text? root) members
    endpoint := ← Node.fieldOr? "endpoint" standard.endpoint (Node.text? root) members
    keyVariable := ← Node.fieldOr? "api_key_env" standard.keyVariable (Node.text? root) members
    timeout := ← Node.fieldOr? "timeout_ms" standard.timeout (Node.natural? root) members }

namespace Settings

/-- Names of languages by extension; of several for one extension the last
    one counts. -/
def extensionsOf? (root node : Node) : Option (List (String × String)) := do
  let members ← Node.members? root node
  let pairs ← members.mapM fun (extension, name) =>
    (Node.text? root name).map fun name => (extension, name)
  return orderedPairs pairs

/-- The settings that a document holds; fields with other names are left out
    of account. -/
def ofDocument? (root : Node) : Option Settings := do
  let members ← Node.members? root root
  return {
    generation := ← Node.fieldOr? "generation" {} (ModelSettings.ofNode? root) members
    excludedPaths := ←
      Node.fieldOr? "excluded_paths" [] (Node.list? (Node.text? root) root) members
    extensions := ← Node.fieldOr? "extensions" [] (extensionsOf? root) members
    outputDir := ← Node.fieldOr? "output_dir" none (Node.optionalText? root) members }

/-- The settings that a text holds; a blank text holds the defaults. -/
def ofText? (text : String) : Option Settings :=
  if Text.allBlank text.toList then some {} else (Node.ofText? text.toList).bind ofDocument?

end Settings

end SnippetScope
