import TestRig.ProjectFile.Yaml
import Mathlib

/-!
# Repeated keys in a first-match table

Each of the three tests a first-match table makes (name, catch-all, expression) looks at a
rule's key alone, and takes the first rule that passes. So a rule whose key an earlier rule
already has is never the one picked: `firstMatch_ignores_repeated_key`. A rule table read from
a mapping with `<<` merge keys lists the merged entries ahead of the mapping's own, so in a
flags or defines table the merged entry of a key wins over the mapping's own entry.
-/

namespace TestRig.Rules

lemma find?_repeated_key (p : String → Bool) (pre mid post : List Rule) {r r' : Rule}
    (h : r'.key = r.key) :
    (pre ++ r :: mid ++ r' :: post).find? (fun x => p x.key) =
      (pre ++ r :: mid ++ post).find? (fun x => p x.key) := by
  by_cases hr : p r.key <;> simp [List.find?_append, hr, h]

/-- In a first-match table, dropping a rule whose key an earlier rule has changes no lookup. -/
theorem firstMatch_ignores_repeated_key (name : String) (mode : Mode) (pre mid post : List Rule)
    {r r' : Rule} (h : r'.key = r.key) (path : String) :
    Table.firstMatch ⟨name, mode, pre ++ r :: mid ++ r' :: post⟩ path =
      Table.firstMatch ⟨name, mode, pre ++ r :: mid ++ post⟩ path := by
  simp only [Table.firstMatch]
  rw [find?_repeated_key (fun k => k == Path.stem path || k == Path.base path) _ _ _ h,
    find?_repeated_key isCatchAll _ _ _ h,
    find?_repeated_key (fun k => !isCatchAll k && regexMatches k path) _ _ _ h]

/-- A merged `'*': [FROM_MERGE]` ahead of the mapping's own `'*': [OWN]`: the own entry is never
used. A project file that writes the defines this way loads a table with both entries, and
every path gets the merged value. -/
theorem firstMatch_merged_entry_wins :
    let merged : Rule := ⟨"*", some ["FROM_MERGE"]⟩
    let own : Rule := ⟨"*", some ["OWN"]⟩
    own.key = merged.key ∧
      Table.firstMatch ⟨"defines.test", .firstMatch, [merged, own]⟩ "src/a.c" =
        Table.firstMatch ⟨"defines.test", .firstMatch, [merged]⟩ "src/a.c" ∧
      ((ProjectFile.loadYaml "project.yml"
          ":shared: &shared\n  '*': [FROM_MERGE]\n:defines:\n  :test:\n    <<: *shared\n    '*': [OWN]\n").toOption.bind
        fun m => (m.defineTable "test").map fun t => (t.rules.map (·.key), t.lookup "src/a.c")) =
        some (["*", "*"], ["FROM_MERGE"]) :=
  ⟨rfl, @firstMatch_ignores_repeated_key "defines.test" .firstMatch [] [] []
    ⟨"*", some ["FROM_MERGE"]⟩ ⟨"*", some ["OWN"]⟩ rfl "src/a.c", by decide +kernel⟩

end TestRig.Rules
