import TagIndex.Proofs.Printing.Functions
import TagIndex.Proofs.Printing.Groups
import TagIndex.Proofs.Printing.Imports

/-! Files whose declarations have no parameters, no statements and no values: their text, and what
they declare by the lines on which the names are printed. -/

namespace TagIndex

inductive Sketch where
  | function (hasReceiver : Bool) (name : String)
  | imports
  | types (names : List String)
  | values (names : List String)
deriving DecidableEq, Repr

namespace Sketch

def names : Sketch → List String
  | function _ name => [name]
  | imports => []
  | types names => names
  | values names => names

def groupLines (keyword : String) (names : List String) : List String :=
  (keyword ++ " (") :: names.map (fun name => "\t" ++ name ++ " int") ++ [")"]

def lines : Sketch → List String
  | function false name => ["func " ++ name ++ "() \x7b\x7d"]
  | function true name => ["func (r T) " ++ name ++ "() \x7b\x7d"]
  | imports => ["import \"fmt\""]
  | types names => groupLines "type" names
  | values names => groupLines "var" names

def namesFrom (line : Nat) (names : List String) : List Ident :=
  (names.zipIdx line).map fun (name, line) => ⟨name, line⟩

def declAt (line : Nat) : Sketch → Decl
  | function hasReceiver name => .function hasReceiver ⟨name, line⟩
  | imports => .imports
  | types names => .types (namesFrom (line + 1) names)
  | values names => .values (namesFrom (line + 1) names)

end Sketch

structure Outline where
  package : String
  sketches : List Sketch

namespace Outline

def lines (o : Outline) : List String :=
  ("package " ++ o.package) :: o.sketches.flatMap Sketch.lines

/-- The text of the file, with a line feed after each line. -/
def text (o : Outline) : String := String.join (o.lines.map (· ++ "\n"))

def declsFrom : Nat → List Sketch → List Decl
  | _, [] => []
  | line, s :: ss => s.declAt line :: declsFrom (line + s.lines.length) ss

def decls (o : Outline) : List Decl := declsFrom 2 o.sketches

structure Declarable (o : Outline) : Prop where
  package : Go.IsDeclName o.package.toList
  names : ∀ s ∈ o.sketches, ∀ name ∈ s.names, Go.IsDeclName name.toList

end Outline

namespace Sketch
open Go

variable {source : String} {before rest : List Char} {s : Sketch}

def textThen (s : Sketch) (rest : List Char) : List Char :=
  match s with
  | function false name => functionText name.toList rest
  | function true name => methodText name.toList rest
  | imports => importText rest
  | types names => typesText (names.map String.toList) rest
  | values names => valuesText (names.map String.toList) rest

def kind : Sketch → String
  | function false _ => "function_declaration"
  | function true _ => "method_declaration"
  | imports => "import_declaration"
  | types _ => "type_declaration"
  | values _ => "var_declaration"

theorem listed_eq (line : Nat) (names : List String) :
    listed line (names.map String.toList) = namesFrom line names := by
  induction names generalizing line with
  | nil => rfl
  | cons name names ih => simp [listed, namesFrom, ih]

def linesText (lines : List String) : List Char := lines.flatMap fun line => line.toList ++ ['\n']

theorem specsText_eq (names : List String) (rest : List Char) :
    specsText (names.map String.toList) rest =
      linesText (names.map (fun name => "\t" ++ name ++ " int") ++ [")"]) ++ rest := by
  induction names with
  | nil => simp [specsText, linesText]
  | cons name names ih => simp [specsText, linesText, ih]

theorem textThen_eq (s : Sketch) (rest : List Char) :
    s.textThen rest = linesText s.lines ++ rest := by
  cases s with
  | function hasReceiver name =>
    cases hasReceiver
    · simp [textThen, lines, linesText, functionText, signature]
    · simp [textThen, lines, linesText, methodText, receiverText, signature]
  | imports => simp [textThen, lines, linesText, importText, pathText]
  | types names =>
    rw [textThen, typesText, specsText_eq]
    simp [lines, groupLines, linesText]
  | values names =>
    rw [textThen, valuesText, specsText_eq]
    simp [lines, groupLines, linesText]

/-- No control characters but tabs. -/
def Plain (text : List Char) : Prop := ∀ c ∈ text, c = '\t' ∨ 32 ≤ c.toNat

instance (text : List Char) : Decidable (Plain text) :=
  decidable_of_iff (text.all fun c => c = '\t' ∨ 32 ≤ c.toNat) (by simp [Plain])

theorem plain_append {a b : List Char} (ha : Plain a) (hb : Plain b) : Plain (a ++ b) :=
  List.forall_mem_append.2 ⟨ha, hb⟩

theorem plain_of_name {name : List Char} (named : IsDeclName name) : Plain name := by
  intro c mem
  have letter : 48 ≤ c.toNat := (identifier_chars named.identifier).2 c mem
  omega

theorem plain_lines (named : ∀ name ∈ s.names, IsDeclName name.toList) :
    ∀ line ∈ s.lines, Plain line.toList := by
  have around (a b : String) (ha : Plain a.toList) (hb : Plain b.toList) {name : String}
      (mem : name ∈ s.names) : Plain (a ++ name ++ b).toList := by
    rw [String.toList_append, String.toList_append]
    exact plain_append (plain_append ha (plain_of_name (named name mem))) hb
  have group (opening : String) (plain : Plain opening.toList) :
      ∀ line ∈ opening :: s.names.map (fun name => "\t" ++ name ++ " int") ++ [")"],
        Plain line.toList := by
    simp only [List.cons_append, List.forall_mem_cons, List.forall_mem_append,
      List.forall_mem_map]
    exact ⟨plain, fun name mem => around "\t" " int" (by decide) (by decide) mem, by decide, nofun⟩
  cases s with
  | function hasReceiver name =>
    cases hasReceiver
    · simpa [lines] using around "func " "() \x7b\x7d" (by decide) (by decide) List.mem_cons_self
    · simpa [lines] using
        around "func (r T) " "() \x7b\x7d" (by decide) (by decide) List.mem_cons_self
  | imports => simp only [lines, List.forall_mem_singleton]; decide
  | types names => exact group "type (" (by decide)
  | values names => exact group "var (" (by decide)

theorem count_linesText {lines : List String} (plain : ∀ line ∈ lines, Plain line.toList) :
    (linesText lines).count '\n' = lines.length := by
  induction lines with
  | nil => rfl
  | cons line lines ih =>
    obtain ⟨first, others⟩ := List.forall_mem_cons.1 plain
    have flat : line.toList.count '\n' = 0 :=
      List.count_eq_zero.2 fun mem => absurd (first '\n' mem) (by decide)
    have rest : (linesText lines).count '\n' = lines.length := ih others
    rw [linesText, List.flatMap_cons, ← linesText, List.count_append, List.count_append, flat, rest]
    simp [Nat.add_comm]

theorem line (named : ∀ name ∈ s.names, IsDeclName name.toList)
    (text : source.toList = before ++ s.textThen rest) :
    Line source s.kind (s.declAt (before.count '\n' + 1)).names (s.textThen rest) rest := by
  cases s with
  | function hasReceiver name =>
    have isName : IsDeclName name.toList := named name List.mem_cons_self
    cases hasReceiver
    · simpa [kind, declAt, Decl.names, textThen] using function_line isName text
    · simpa [kind, declAt, Decl.names, textThen] using method_line isName text
  | imports => exact import_line
  | types names =>
    rw [declAt, ← listed_eq]
    exact types_line (by simpa [Sketch.names] using named) text
  | values names =>
    rw [declAt, ← listed_eq]
    exact values_line (by simpa [Sketch.names] using named) text

theorem kind_mem (s : Sketch) : s.kind ∈ declarationKinds := by
  cases s with
  | function hasReceiver _ => cases hasReceiver <;> simp [kind, declarationKinds]
  | _ => simp [kind, declarationKinds]

theorem decl_of_declares {line : Nat} {t : Tree}
    (h : Declares source s.kind (s.declAt line).names t) (clean : t.Clean) :
    t.decl source = .ok (s.declAt line) := by
  have isKind : t.kind = s.kind := h.isKind
  have listed : t.kind ∈ declarationKinds := isKind ▸ s.kind_mem
  have idents : t.declaredNames.mapM (·.ident source) = .ok (s.declAt line).names := by
    rw [declaredNames_eq listed (isKind ▸ h.phrase) clean]
    exact h.own clean
  obtain ⟨d, read, names⟩ := exists_decl listed (isKind ▸ h.phrase) clean idents
  have same : d = s.declAt line := by
    cases s with
    | function hasReceiver name =>
      cases hasReceiver
      all_goals
        simp only [Tree.decl, isKind, kind] at read
        obtain ⟨i, -, rfl⟩ := map_eq_ok_iff.1 read
        simpa [Decl.names, declAt] using names
    | imports => simpa [Tree.decl, isKind, kind, declAt, eq_comm] using read
    | types _ | values _ =>
      simp only [Tree.decl, isKind, kind] at read
      obtain ⟨is, -, rfl⟩ := map_eq_ok_iff.1 read
      simpa [Decl.names, declAt] using names
  rw [read, same]

end Sketch

namespace Outline
open Go Sketch Text

variable {o : Outline}

def sketchesText : List Sketch → List Char
  | [] => []
  | s :: ss => s.textThen (sketchesText ss)

theorem text_eq_linesText (o : Outline) : o.text.toList = linesText o.lines := by
  simp [text, linesText, List.flatMap_map]

theorem text_eq (o : Outline) :
    o.text.toList = packageText o.package.toList (sketchesText o.sketches) := by
  have sketches (ss : List Sketch) : sketchesText ss = linesText (ss.flatMap Sketch.lines) := by
    induction ss with
    | nil => rfl
    | cons s ss ih => simp [sketchesText, textThen_eq, ih, linesText]
  simp [text_eq_linesText, lines, packageText, sketches, linesText]

theorem plain_lines (h : o.Declarable) : ∀ line ∈ o.lines, Plain line.toList := by
  rw [lines, List.forall_mem_cons]
  constructor
  · rw [String.toList_append]
    exact plain_append (by decide) (plain_of_name h.package)
  · intro line mem
    obtain ⟨s, listed, printed⟩ := List.mem_flatMap.1 mem
    exact Sketch.plain_lines (h.names s listed) line printed

theorem noNul (h : o.Declarable) : 0 ∉ Utf8.encode o.text.toList := by
  intro mem
  obtain ⟨c, listed, inside⟩ := List.mem_flatMap.1 mem
  have null : c.toNat = 0 := Utf8.eq_of_mem_utf8EncodeChar inside (by decide)
  rw [text_eq_linesText] at listed
  obtain ⟨line, printed, within⟩ := List.mem_flatMap.1 listed
  obtain within | feed := List.mem_append.1 within
  · obtain rfl | visible := plain_lines h line printed c within
    · cases null
    · omega
  · obtain rfl := List.mem_singleton.1 feed
    cases null

end Outline

end TagIndex
