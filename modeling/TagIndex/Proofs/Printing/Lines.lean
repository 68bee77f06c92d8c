import TagIndex.Proofs.Go.Phrases
import TagIndex.Proofs.Source.TopLevel

/-! Declarations on lines of their own, and what the grammar of Go reads there. -/

namespace TagIndex.Go
open Grammar Grammar.Phrase Text TagIndex.Tree

variable {source : String} {role : Role} {ts : List Tree} {s s' before name rest : List Char}

structure Declares (source kind : String) (names : List Ident) (t : Tree) : Prop where
  named : t.named = true
  isKind : t.kind = kind
  phrase : IsPhrase source kind t
  own : t.Clean → t.ownNames.mapM (·.ident source) = .ok names

theorem ident_of_stands {n : Tree} (before : List Char)
    (text : source.toList = before ++ (name ++ rest)) (stands : n.Stands source name rest) :
    n.ident source = .ok ⟨String.ofList name, before.count '\n' + 1⟩ := by
  obtain ⟨before', split, splits, row⟩ := stands.place
  obtain rfl : before' = before := List.append_cancel_right (split.symm.trans text)
  rw [splits.ident, row]

theorem filter_children {kind : String} {t : Tree} (h : IsPhrase source kind t) (clean : t.Clean)
    (p : Tree → Bool) (apart : ∀ c, c.kind = "comment" → c.field = none → p c = false) :
    t.children.filter p = t.parts.filter p := by
  rw [parts, List.filter_filter]
  refine List.filter_congr fun c child => ?_
  obtain part | ⟨-, comment, none⟩ := child_cases h clean child
  · simp [(List.mem_filter.1 part).2]
  · simp [apart c comment none]

theorem find?_children {kind : String} {t : Tree} (h : IsPhrase source kind t) (clean : t.Clean)
    (p : Tree → Bool) (apart : ∀ c, c.kind = "comment" → c.field = none → p c = false) :
    t.children.find? p = t.parts.find? p := by
  rw [← List.head?_filter, ← List.head?_filter, filter_children h clean p apart]

theorem nameNode?_of_parts (ahead : List Tree) {kind : String} {t n : Tree} {after : List Tree}
    (h : IsPhrase source kind t) (clean : t.Clean) (parts : t.parts = ahead ++ n :: after)
    (others : ∀ c ∈ ahead, c.field ≠ some "name") (field : n.field = some "name") :
    t.nameNode? = some n := by
  rw [nameNode?, find?_children h clean _ (by simp +contextual), parts]
  have skipped : ahead.find? (·.field == some "name") = none := by
    simpa using others
  simp [List.find?_append, skipped, field]

structure LineReads (source kind : String) (names : List Ident) (rest : List Char)
    (ts : List Tree) (s' : List Char) : Prop where
  declares : ∃ t, ts = [t] ∧ Declares source kind names t
  stop : s' = '\n' :: rest ∨ s' = ' ' :: '\x7b' :: '\x7d' :: '\n' :: rest

structure Line (source kind : String) (names : List Ident) (s rest : List Char) : Prop where
  solid : Solid s
  apart : ∀ rest, s ≠ ';' :: rest
  reads : ∀ rule ∈ ["_statement", "_top_level_declaration"], ∀ ts s',
    Parses language source {} (ref rule) s ts s' → LineReads source kind names rest ts s'

theorem Line.of_statement {kind : String} {names : List Ident} {s rest : List Char}
    {opens : Lexeme → Bool} {dead : String → Bool} (solid : Solid s)
    (apart : ∀ rest, s ≠ ';' :: rest) (front : Front language source s opens dead)
    (shut : dead "_top_level_declaration" = true)
    (reads : ∀ ts s', Parses language source {} (ref "_statement") s ts s' →
      LineReads source kind names rest ts s') : Line source kind names s rest := by
  refine ⟨solid, apart, fun rule mem ts s' h => ?_⟩
  simp only [List.mem_cons, List.not_mem_nil, or_false] at mem
  obtain rfl | rfl := mem
  · exact reads ts s' h
  · exact (front.misses _ shut _ _ _ h).elim

theorem Line.of_top {kind : String} {names : List Ident} {s rest : List Char}
    {opens : Lexeme → Bool} {dead : String → Bool} (solid : Solid s)
    (apart : ∀ rest, s ≠ ';' :: rest) (front : Front language source s opens dead)
    (shut : dead "_statement" = true)
    (reads : ∀ ts s', Parses language source {} (ref "_top_level_declaration") s ts s' →
      LineReads source kind names rest ts s') : Line source kind names s rest := by
  refine ⟨solid, apart, fun rule mem ts s' h => ?_⟩
  simp only [List.mem_cons, List.not_mem_nil, or_false] at mem
  obtain rfl | rfl := mem
  · exact (front.misses _ shut _ _ _ h).elim
  · exact reads ts s' h

def packageText (name rest : List Char) : List Char :=
  'p' :: 'a' :: 'c' :: 'k' :: 'a' :: 'g' :: 'e' :: ' ' :: (name ++ '\n' :: rest)

theorem ends_newline : Ends ('\n' :: rest) := ends_cons (by decide)

theorem package_clause_reads (named : IsDeclName name)
    (text : source.toList = before ++ packageText name rest)
    (h : Parses language source {} (ref "package_clause") (packageText name rest) ts s') :
    s' = '\n' :: rest ∧ ∃ t, ts = [t] ∧ Declares source "package_clause"
      [⟨String.ofList name, before.count '\n' + 1⟩] t := by
  obtain ⟨t, rfl, -, shows, between, body⟩ := (parses_shown rfl rfl rfl).1 h
  have phrase : IsPhrase source "package_clause" t := ⟨between, _, rfl, rfl, body.derives⟩
  simp only [parses_next, parses_done] at body
  obtain ⟨_, m, _, keyword, ⟨_, _, _, package, ⟨rfl, rfl⟩, rfl⟩, parts⟩ := body
  obtain ⟨rfl, k, rfl, -, shown⟩ :=
    lit_ends [] (' ' :: (name ++ '\n' :: rest)) (by decide) (by decide) keyword
  obtain ⟨rfl, n, rfl, -, kind, isNamed, -, stands⟩ :=
    name_ends "package_identifier" (g := [' ']) (by decide) rfl named (by decide) ends_newline
      package
  refine ⟨rfl, t, rfl, shows.named, shows.kind, phrase, fun clean => ?_⟩
  have node : t.packageNode? = some n := by
    rw [packageNode?, namedChildren, List.find?_filter,
      find?_children phrase clean _ (by simp +contextual), parts]
    simp [shown.named, kind, isNamed]
  have ident := ident_of_stands (before ++ "package ".toList)
    (by simpa [packageText] using text) stands
  have isKind : t.kind = "package_clause" := shows.kind
  have own : t.ownNames = [n] := by simp [ownNames, isKind, node]
  rw [own, mapM_eq_ok_iff]
  simpa using ident

theorem closed_package : language.closed (opensAt "package ".toList)
    (allBut ["package_clause", "_top_level_declaration", "source_file"]) ["identifier"] =
    true := by
  decide

theorem front_package : Front language source (packageText name rest) (opensAt "package ".toList)
    (allBut ["package_clause", "_top_level_declaration", "source_file"]) :=
  front_keyword "package".toList (by decide) closed_package

theorem package_line (named : IsDeclName name)
    (text : source.toList = before ++ packageText name rest) :
    Line source "package_clause" [⟨String.ofList name, before.count '\n' + 1⟩]
      (packageText name rest) rest := by
  refine .of_top ⟨'p', _, rfl, by decide⟩ nofun front_package rfl fun ts s' h => ?_
  have clause : Parses language source {} (ref "package_clause") (packageText name rest) ts s' :=
    front_package.only 0 ((parses_hidden rfl rfl rfl).1 h) rfl (by decide)
  obtain ⟨stop, declares⟩ := package_clause_reads named text clause
  exact ⟨declares, .inl stop⟩

end TagIndex.Go
