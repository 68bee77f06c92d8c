import TagIndex.Error
import TagIndex.Files.Location

/-! Following the names of a path through directories and links. -/

namespace TagIndex.Files

def linkLimit : Nat := 40

inductive Destination where
  | present (location : List String)
  | vacant (directory : List String) (name : String)
deriving BEq, DecidableEq, Inhabited, Repr

def Destination.location : Destination → List String
  | present location => location
  | vacant directory name => directory ++ [name]

/-- Follow names from a location on. At most `links` links are followed, the last one too. With
`creating` the last name is one to be created if it is new, and then it stands for a file. -/
def follow (root : Node) (creating : Bool) (links : Nat) (here : List String) :
    List String → Except SystemError Destination
  | [] => .ok (.present here)
  | step :: rest =>
    if step = "" ∨ step = "." then follow root creating links here rest
    else if step = ".." then follow root creating links here.dropLast rest
    else if creating ∧ rest = [""] then .error .isDirectory
    else if nameLimit < step.utf8ByteSize then .error .nameTooLong
    else match root.surfaceAt? (here ++ [step]) with
      | none => if rest = [] then .ok (.vacant here step) else .error .notFound
      | some (.file _) =>
        if rest = [] then .ok (.present (here ++ [step])) else .error .notDirectory
      | some .directory => follow root creating links (here ++ [step]) rest
      | some (.link target) =>
        match links with
        | 0 => .error .tooManyLinks
        | fewer + 1 =>
          if target = "" then .error .notFound
          else follow root creating fewer (if isAbsolute target then [] else here)
            (steps target ++ rest)
termination_by names => (links, names.length)

/-- The name is to be looked up, and it is not the name of a directory that would be created. -/
structure LookedUp (creating : Bool) (step : String) (rest : List String) : Prop where
  moves : ¬ (step = "" ∨ step = ".")
  descends : step ≠ ".."
  allowed : ¬ (creating = true ∧ rest = [""])
  short : step.utf8ByteSize ≤ nameLimit

inductive Leads (root : Node) (creating : Bool) :
    Nat → List String → List String → Destination → Prop
  | arrive (links : Nat) (here : List String) : Leads root creating links here [] (.present here)
  | stay {links : Nat} {here rest : List String} {step : String} {d : Destination}
      (h : step = "" ∨ step = ".") (onward : Leads root creating links here rest d) :
      Leads root creating links here (step :: rest) d
  | up {links : Nat} {here rest : List String} {d : Destination}
      (onward : Leads root creating links here.dropLast rest d) :
      Leads root creating links here (".." :: rest) d
  | new {links : Nat} {here : List String} {step : String} (up : LookedUp creating step [])
      (found : root.surfaceAt? (here ++ [step]) = none) :
      Leads root creating links here [step] (.vacant here step)
  | file {links : Nat} {here : List String} {step : String} {content : List UInt8}
      (up : LookedUp creating step [])
      (found : root.surfaceAt? (here ++ [step]) = some (.file content)) :
      Leads root creating links here [step] (.present (here ++ [step]))
  | down {links : Nat} {here rest : List String} {step : String} {d : Destination}
      (up : LookedUp creating step rest)
      (found : root.surfaceAt? (here ++ [step]) = some .directory)
      (onward : Leads root creating links (here ++ [step]) rest d) :
      Leads root creating links here (step :: rest) d
  | link {fewer : Nat} {here rest : List String} {step target : String} {d : Destination}
      (up : LookedUp creating step rest)
      (found : root.surfaceAt? (here ++ [step]) = some (.link target)) (nonempty : target ≠ "")
      (onward : Leads root creating fewer (if isAbsolute target then [] else here)
        (steps target ++ rest) d) :
      Leads root creating (fewer + 1) here (step :: rest) d

theorem follow_lookedUp {root : Node} {creating : Bool} {links : Nat} {here rest : List String}
    {step : String} (up : LookedUp creating step rest) :
    follow root creating links here (step :: rest) =
      match root.surfaceAt? (here ++ [step]) with
      | none => if rest = [] then .ok (.vacant here step) else .error .notFound
      | some (.file _) =>
        if rest = [] then .ok (.present (here ++ [step])) else .error .notDirectory
      | some .directory => follow root creating links (here ++ [step]) rest
      | some (.link target) =>
        match links with
        | 0 => .error .tooManyLinks
        | fewer + 1 =>
          if target = "" then .error .notFound
          else follow root creating fewer (if isAbsolute target then [] else here)
            (steps target ++ rest) := by
  rw [follow, if_neg up.moves, if_neg up.descends, if_neg up.allowed,
    if_neg (Nat.not_lt.2 up.short)]

theorem follow_eq_ok_iff {root : Node} {creating : Bool} {links : Nat} {here names : List String}
    {d : Destination} :
    follow root creating links here names = .ok d ↔ Leads root creating links here names d := by
  constructor
  · intro h
    fun_induction follow root creating links here names with
    | case1 links here => cases h; exact .arrive links here
    | case2 _ _ _ _ stays ih => exact .stay stays (ih h)
    | case3 _ _ _ _ ih => exact .up (ih h)
    | case6 links here step moves descends short found allowed =>
      cases h
      exact .new ⟨moves, descends, allowed, Nat.not_lt.1 short⟩ found
    | case8 links here step moves descends short content found allowed =>
      cases h
      exact .file ⟨moves, descends, allowed, Nat.not_lt.1 short⟩ found
    | case10 links here step rest moves descends allowed short found ih =>
      exact .down ⟨moves, descends, allowed, Nat.not_lt.1 short⟩ found (ih h)
    | case13 here step rest moves descends allowed short target found fewer nonempty ih =>
      exact .link ⟨moves, descends, allowed, Nat.not_lt.1 short⟩ found nonempty (ih h)
    | case4 | case5 | case7 | case9 | case11 | case12 => cases h
  · intro h
    induction h with
    | arrive links here => rw [follow]
    | stay stays _ ih => rw [follow, if_pos stays, ih]
    | up _ ih => rw [follow, if_neg (by decide), if_pos rfl, ih]
    | new up found => rw [follow_lookedUp up, found]; rfl
    | file up found => rw [follow_lookedUp up, found]; rfl
    | down up found _ ih => rw [follow_lookedUp up, found]; exact ih
    | link up found nonempty _ ih => rw [follow_lookedUp up, found]; simpa [nonempty] using ih

def Readable (names : List String) : Prop :=
  ∀ name ∈ names, '/' ∉ name.toList ∧ '\x00' ∉ name.toList

theorem readable_steps {path : String} (h : '\x00' ∉ path.toList) : Readable (steps path) :=
  fun _ hn => ⟨fun hc => (mem_of_mem_steps hn hc).2 rfl, fun hc => h (mem_of_mem_steps hn hc).1⟩

theorem LookedUp.isName {creating : Bool} {step : String} {rest : List String}
    (up : LookedUp creating step rest) (readable : Readable (step :: rest)) : IsName step :=
  ⟨fun h => up.moves (.inl h), fun h => up.moves (.inr h), up.descends, up.short,
    readable step List.mem_cons_self⟩

/-- A destination that following names can have: a directory, a file, or a well-formed name that a
directory lacks. -/
inductive Destination.Fits (root : Node) : Destination → Prop
  | directory {location : List String} (h : root.surfaceAt? location = some .directory) :
      Fits root (.present location)
  | file {location : List String} {content : List UInt8}
      (h : root.surfaceAt? location = some (.file content)) : Fits root (.present location)
  | vacant {directory : List String} {name : String} (named : IsName name)
      (above : root.surfaceAt? directory = some .directory)
      (free : root.surfaceAt? (directory ++ [name]) = none) : Fits root (.vacant directory name)

theorem surfaceAt?_dropLast {root : Node} {here : List String}
    (h : root.surfaceAt? here = some .directory) :
    root.surfaceAt? here.dropLast = some .directory := by
  by_cases empty : here = []
  · simpa [empty] using h
  · have stands : root.surfaceAt? (here.dropLast ++ [here.getLast empty]) ≠ none := by
      simp [List.dropLast_concat_getLast empty, h]
    exact Node.surfaceAt?_eq_directory_of_append stands (by simp)

theorem surfaceAt?_start {root : Node} {here : List String} (target : String)
    (h : root.surfaceAt? here = some .directory) :
    root.surfaceAt? (if isAbsolute target then [] else here) = some .directory := by
  split
  · by_cases empty : here = []
    · simpa [empty] using h
    · have stands : root.surfaceAt? ([] ++ here) ≠ none := by simp [h]
      exact Node.surfaceAt?_eq_directory_of_append stands empty
  · exact h

theorem Leads.fits {root : Node} {creating : Bool} {links : Nat} {here names : List String}
    {d : Destination} (h : Leads root creating links here names d) (sound : root.Sound)
    (standing : root.surfaceAt? here = some .directory) (readable : Readable names) :
    d.Fits root := by
  have rest {step : String} {rest : List String} (h : Readable (step :: rest)) : Readable rest :=
    fun name hn => h name (List.mem_cons_of_mem _ hn)
  induction h with
  | arrive links here => exact .directory standing
  | stay _ _ ih => exact ih standing (rest readable)
  | up _ ih => exact ih (surfaceAt?_dropLast standing) (rest readable)
  | new up found => exact .vacant (up.isName readable) standing found
  | file up found => exact .file found
  | down up found _ ih => exact ih found (rest readable)
  | @link fewer here names step target d up found nonempty _ ih =>
    have target : '\x00' ∉ target.toList := by
      rw [Node.surfaceAt?, Option.map_eq_some_iff] at found
      obtain ⟨n, found, surface⟩ := found
      cases n with
      | link text =>
        cases surface
        cases sound.of_at? found with
        | link readable => exact readable
      | _ => cases surface
    refine ih (surfaceAt?_start _ standing) fun name hn => ?_
    obtain hn | hn := List.mem_append.1 hn
    · exact readable_steps target name hn
    · exact rest readable name hn

end TagIndex.Files
