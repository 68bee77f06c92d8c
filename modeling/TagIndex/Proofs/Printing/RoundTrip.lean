import TagIndex.Proofs.Printing.Trees

/-! Reading undoes printing: of a printed file, the package and the declarations are read that were
printed, each name on its line. -/

namespace TagIndex
open Text Grammar

/-- Where the grammar can read the text, the parser reads it so. -/
def Implements (d : Description) (start : String) (parse : String → Tree) (source : String) :
    Prop :=
  (∃ tree, Parsed d start source tree) → Parsed d start source (parse source)

theorem read_undoes_printing (parse : String → Tree) (path : String) (o : Outline)
    (declarable : o.Declarable)
    (implements : Implements Go.language "source_file" parse o.text) :
    SourceFile.read parse path (Utf8.encode o.text.toList) =
      .ok ⟨path, ⟨o.package, 1⟩, o.decls⟩ := by
  have parsed : Parsed Go.language "source_file" o.text (parse o.text) :=
    implements ⟨o.tree, Outline.parsed_tree declarable⟩
  have clean : (parse o.text).Clean := parsed.clean
  rw [read_of_text rfl]
  exact (ofTree_eq_ok_iff (Outline.noNul declarable) clean.flagged clean).2
    ⟨rfl, Outline.topLevel_of_parsed declarable parsed⟩

namespace Sample

def outline : Outline where
  package := "é"
  sketches := [.values [], .function true "len", .imports, .types ["_", "T2", "string"],
    .function false "main", .values ["nil", "é"], .types []]

theorem declarable_outline : outline.Declarable where
  package := ⟨by decide, by decide +kernel⟩
  names := by
    have all : ∀ s ∈ outline.sketches, ∀ name ∈ s.names, Go.identifier.Matches name.toList ∧
        String.ofList name.toList ∉ Go.language.reserved := by
      decide
    exact fun s listed name mem => ⟨(all s listed name mem).1, (all s listed name mem).2⟩

end Sample

theorem read_undoes_printing_sample :
    SourceFile.read (fun _ => Sample.outline.tree) "a.go"
        (Utf8.encode Sample.outline.text.toList) =
      .ok ⟨"a.go", ⟨"é", 1⟩, [.values [], .function true ⟨"len", 4⟩, .imports,
        .types [⟨"_", 7⟩, ⟨"T2", 8⟩, ⟨"string", 9⟩], .function false ⟨"main", 11⟩,
        .values [⟨"nil", 13⟩, ⟨"é", 14⟩], .types []]⟩ :=
  read_undoes_printing (fun _ => Sample.outline.tree) "a.go" Sample.outline
    Sample.declarable_outline fun _ => Outline.parsed_tree Sample.declarable_outline

end TagIndex
