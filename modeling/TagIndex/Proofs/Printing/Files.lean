import TagIndex.Proofs.Printing.Outline

/-! A file line by line: the grammar reads one declaration on each, and nothing else. -/

namespace TagIndex
namespace Go
open Grammar Grammar.Phrase Text TagIndex.Tree

variable {source kind : String} {names : List Ident} {entries : List (String × List Ident)}
  {role : Role} {ts us : List Tree} {s s' m rest : List Char}

def item : Phrase := oneOf [
  .seq [ref "_statement", terminator],
  .seq [ref "_top_level_declaration", terminator]]

inductive Lines (source : String) : List (String × List Ident) → List Char → Prop
  | nil : Lines source [] []
  | cons {kind : String} {names : List Ident} {entries : List (String × List Ident)}
      {s rest : List Char} (first : Line source kind names s rest)
      (others : Lines source entries rest) : Lines source ((kind, names) :: entries) s

theorem Lines.cases (h : Lines source entries s) : s = [] ∨ Solid s ∧ ∀ rest, s ≠ ';' :: rest := by
  cases h with
  | nil => exact .inl rfl
  | cons first _ => exact .inr ⟨first.solid, first.apart⟩

theorem closed_end : language.closed opensEnd (allBut ["source_file"]) ["identifier"] = true := by
  decide

theorem not_identifier_end : ¬ Parses language source role (ref "identifier") [] ts s' := by
  intro h
  obtain ⟨t, text, -, -, -, read, -⟩ := (parses_sole identifier_token rfl (.inr rfl)).1 h
  obtain spelled | ⟨-, -, null⟩ := read.spelled
  · obtain ⟨rfl, -⟩ := List.append_eq_nil_iff.1 (skips_nil read.skipped rfl)
    cases spelled.nullable rfl
  · exact absurd ((identifier_chars null).2 _ List.mem_cons_self) (by decide)

theorem front_end : Front language source [] opensEnd (allBut ["source_file"]) := by
  refine .closed (fun l text s' read => opensEnd_of_reads read) ?_ closed_end
  intro rule listed role ts s' h
  obtain rfl : rule = "identifier" := by simpa using listed
  exact not_identifier_end h

theorem item_reads (line : Line source kind names s rest)
    (next : rest = [] ∨ Solid rest ∧ ∀ more, rest ≠ ';' :: more)
    (h : Parses language source {} item s ts s') :
    s' = rest ∧ ∃ t, ts.filter (·.named) = [t] ∧ Declares source kind names t := by
  have ended {ts us : List Tree} {m : List Char} (reads : LineReads source kind names rest ts m)
      (ending : Parses language source {} terminator m us s') :
      s' = rest ∧ ∃ t, (ts ++ us).filter (·.named) = [t] ∧ Declares source kind names t := by
    obtain ⟨⟨t, rfl, declares⟩, rfl | rfl⟩ := reads
    -- The terminator must be the line feed: nothing else that ends a statement stands there.
    · have stops : Stops rest := by
        obtain rfl | ⟨solid, -⟩ := next
        · exact stops_nil
        · exact solid.stops
      have other : ∀ more, rest ≠ ';' :: more := by
        obtain rfl | ⟨-, other⟩ := next
        · nofun
        · exact other
      obtain ⟨same, unnamed⟩ := terminator_ends (g := []) (by decide) (by decide) stops other
        (fun _ => rfl) rfl ending
      exact ⟨same, t, by simp [declares.named, filter_unnamed unnamed], declares⟩
    · have solid : Solid ('\x7b' :: '\x7d' :: '\n' :: rest) := ⟨'\x7b', _, rfl, by decide⟩
      exact (not_terminator (g := [' ']) (by decide) (by decide) solid nofun rfl ending).elim
  rw [item, parses_oneOf] at h
  simp only [List.mem_cons, List.not_mem_nil, or_false] at h
  obtain ⟨_, rfl | rfl, h⟩ := h
  all_goals
    obtain ⟨_, m, _, read, afterRead, rfl⟩ := parses_next.1 h
    obtain ⟨_, _, _, ending, done, rfl⟩ := parses_next.1 afterRead
    obtain ⟨rfl, rfl⟩ := parses_done.1 done
    rw [List.append_nil]
    exact ended (line.reads _ (by simp) _ _ read) ending

theorem last_reads (line : Line source kind names s rest) (next : rest = [] ∨ Solid rest)
    (h : Parses language source {} (ref "_top_level_declaration") s ts s')
    (ends : language.Skips s' []) : rest = [] ∧ ∃ t, ts = [t] ∧ Declares source kind names t := by
  obtain ⟨declares, rfl | rfl⟩ := line.reads _ (by simp) _ _ h
  · obtain empty | solid := next
    · exact ⟨empty, declares⟩
    · exact (not_skips_solid (g := ['\n']) (by decide) solid ends).elim
  · have solid : Solid ('\x7b' :: '\x7d' :: '\n' :: rest) := ⟨'\x7b', _, rfl, by decide⟩
    exact (not_skips_solid (g := [' ']) (by decide) solid ends).elim

theorem lines_read (lines : Lines source entries s)
    (h : Parses language source {} (many item) s ts m)
    (last : Parses language source {} (opt (ref "_top_level_declaration")) m us s')
    (ends : language.Skips s' []) : List.Forall₂ (fun t entry => Declares source entry.1 entry.2 t)
      ((ts ++ us).filter (·.named)) entries := by
  -- By the lines: each item takes exactly one, and only the last declaration may lack its end.
  induction lines generalizing ts with
  | nil =>
    obtain ⟨rfl, rfl⟩ | ⟨_, _, _, first, -, -⟩ := parses_many.1 h
    swap
    · exact (front_end.miss first (by decide)).elim
    obtain last | ⟨rfl, -⟩ := parses_opt.1 last
    · exact (front_end.misses _ rfl _ _ _ last).elim
    · exact .nil
  | cons line others ih =>
    obtain ⟨rfl, rfl⟩ | ⟨_, k, _, first, more, rfl⟩ := parses_many.1 h
    · obtain last | ⟨rfl, rfl⟩ := parses_opt.1 last
      · obtain ⟨rfl, t, rfl, declares⟩ :=
          last_reads line (others.cases.imp_right And.left) last ends
        cases others with
        | nil => simpa [declares.named] using declares
        | cons first _ => exact absurd rfl first.solid.ne_nil
      · exact (not_skips_solid (g := []) (by decide) line.solid ends).elim
    · obtain ⟨rfl, t, only, declares⟩ := item_reads line others.cases first
      rw [List.append_assoc, List.filter_append, only]
      exact .cons declares (ih more)

theorem topLevelNodes_eq {tree : Tree} (clean : tree.Clean) :
    tree.topLevelNodes = tree.parts.filter (·.named) := by
  rw [topLevelNodes, namedChildren, parts, List.filter_filter, List.filter_filter]
  refine List.filter_congr fun c child => ?_
  simp [belongs, (clean.child child).not_error, Bool.and_comm]

theorem topLevelNodes_read {tree : Tree} (lines : Lines source entries source.toList)
    (parsed : Parsed language "source_file" source tree) :
    List.Forall₂ (fun t entry => Declares source entry.1 entry.2 t) tree.topLevelNodes entries := by
  obtain ⟨rest, reads, ends⟩ := parsed.reads
  obtain ⟨_, same, -, -, -, body⟩ := (parses_shown rfl rfl rfl).1 reads
  obtain rfl := List.singleton_inj.1 same
  obtain ⟨_, m, _, items, afterItems, parts⟩ := parses_next.1 body
  obtain ⟨_, k, _, last, done, rfl⟩ := parses_next.1 afterItems
  obtain ⟨rfl, rfl⟩ := parses_done.1 done
  rw [topLevelNodes_eq parsed.clean, parts, List.append_nil]
  exact lines_read lines items last ends

end Go

namespace Outline
open Go Grammar Text

variable {o : Outline} {source : String} {tree : Tree} {ss : List Sketch} {before : List Char}

def entriesFrom : Nat → List Sketch → List (String × List Ident)
  | _, [] => []
  | line, s :: ss => (s.kind, (s.declAt line).names) :: entriesFrom (line + s.lines.length) ss

theorem lines_of_sketches (named : ∀ s ∈ ss, ∀ name ∈ s.names, IsDeclName name.toList)
    (text : source.toList = before ++ sketchesText ss) :
    Lines source (entriesFrom (before.count '\n' + 1) ss) (sketchesText ss) := by
  induction ss generalizing before with
  | nil => exact .nil
  | cons s ss ih =>
    obtain ⟨namedFirst, namedOthers⟩ := List.forall_mem_cons.1 named
    have text' : source.toList = (before ++ Sketch.linesText s.lines) ++ sketchesText ss := by
      rw [text, sketchesText, Sketch.textThen_eq, List.append_assoc]
    have count : (before ++ Sketch.linesText s.lines).count '\n' + 1 =
        before.count '\n' + 1 + s.lines.length := by
      rw [List.count_append, Sketch.count_linesText (Sketch.plain_lines namedFirst)]
      omega
    have others := ih namedOthers text'
    rw [count] at others
    exact .cons (Sketch.line namedFirst text) others

theorem lines_of_text (h : o.Declarable) :
    Lines o.text (("package_clause", [⟨o.package, 1⟩]) :: entriesFrom 2 o.sketches)
      o.text.toList := by
  have text : o.text.toList = [] ++ packageText o.package.toList (sketchesText o.sketches) :=
    o.text_eq
  have clause := package_line h.package text
  have text' : o.text.toList = ("package ".toList ++ o.package.toList ++ ['\n']) ++
      sketchesText o.sketches := by
    rw [text]
    simp [packageText]
  have count : ("package ".toList ++ o.package.toList ++ ['\n']).count '\n' = 1 := by
    have flat : o.package.toList.count '\n' = 0 := List.count_eq_zero.2 h.package.flat
    simp [flat]
  have sketches := lines_of_sketches h.names text'
  rw [count] at sketches
  rw [o.text_eq]
  exact .cons (by simpa using clause) sketches

theorem package_of_declares {name : Ident} {t : Tree}
    (h : Declares source "package_clause" [name] t) (clean : t.Clean) :
    t.packageName source = .ok name := by
  have idents : t.packageNode?.toList.mapM (·.ident source) = .ok [name] := by
    simpa [Tree.ownNames, h.isKind] using h.own clean
  cases node : t.packageNode? with
  | none =>
    rw [node] at idents
    cases idents
  | some n =>
    rw [node, mapM_eq_ok_iff] at idents
    rw [Tree.packageName_eq node]
    simpa using idents

theorem decls_of_declares {line : Nat} {ts : List Tree}
    (h : List.Forall₂ (fun t entry => Declares source entry.1 entry.2 t) ts (entriesFrom line ss))
    (clean : ∀ t ∈ ts, t.Clean) : ts.mapM (·.decl source) = .ok (declsFrom line ss) := by
  rw [mapM_eq_ok_iff]
  induction ss generalizing line ts with
  | nil =>
    cases h
    exact .nil
  | cons s ss ih =>
    cases h with
    | cons first rest =>
      obtain ⟨cleanFirst, cleanRest⟩ := List.forall_mem_cons.1 clean
      exact .cons (Sketch.decl_of_declares first cleanFirst) (ih rest cleanRest)

theorem topLevel_of_parsed (h : o.Declarable) (parsed : Parsed language "source_file" o.text tree) :
    topLevel o.text tree.topLevelNodes = .ok (⟨o.package, 1⟩, o.decls) := by
  have declares := topLevelNodes_read (lines_of_text h) parsed
  have clean : ∀ t ∈ tree.topLevelNodes, t.Clean := fun t mem =>
    Tree.Clean.child parsed.clean (mem_children_of_topLevelNodes mem)
  obtain ⟨clause, decls, first, rest, nodes⟩ := List.forall₂_cons_right_iff.1 declares
  rw [nodes] at clean ⊢
  obtain ⟨cleanFirst, cleanRest⟩ := List.forall_mem_cons.1 clean
  exact topLevel_eq_ok_iff.2
    ⟨first.isKind, package_of_declares first cleanFirst, decls_of_declares rest cleanRest⟩

end Outline
end TagIndex
