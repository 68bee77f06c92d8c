import TagIndex.Files.FileSystem
import TagIndex.Text.Order

/-! Walking a directory: all files below it, entries in the order of their names. -/

namespace TagIndex.Files

inductive Listing where
  | file
  | other
  | unreadable (error : String)
  | directory (entries : List (String × Listing))

inductive Visit where
  | file (chain : List String)
  | unreadable (error : String)
deriving BEq, DecidableEq, Inhabited, Repr

namespace Visit

def below (name : String) : Visit → Visit
  | file chain => file (name :: chain)
  | unreadable error => unreadable error

def chain? : Visit → Option (List String)
  | file chain => some chain
  | unreadable _ => none

end Visit

def walkFailure (path : String) (cause : SystemError) : String :=
  "IO error for operation on " ++ path ++ ": " ++ cause.message

mutual

/-- Links are neither followed nor counted as files. What is below an entry comes before the next
entry. -/
def Listing.visits : Listing → List Visit
  | .file => [.file []]
  | .other => []
  | .unreadable error => [.unreadable error]
  | .directory entries =>
    ((Listing.visitsOfEntries entries).mergeSort fun a b => Text.bytesLe a.1 b.1).flatMap
      fun (name, visits) => visits.map (·.below name)

def Listing.visitsOfEntries : List (String × Listing) → List (String × List Visit)
  | [] => []
  | (name, child) :: rest => (name, child.visits) :: Listing.visitsOfEntries rest

end

mutual

def Node.listing : Node → Listing
  | .file _ => .file
  | .link _ => .other
  | .directory entries => .directory (Node.listingOfEntries entries)

def Node.listingOfEntries : List (String × Node) → List (String × Listing)
  | [] => []
  | (name, child) :: rest => (name, child.listing) :: Node.listingOfEntries rest

end

def FileSystem.walk (fs : FileSystem) (path : String) : List Visit :=
  match fs.node path with
  | .ok n => n.listing.visits
  | .error cause => [.unreadable (walkFailure path cause)]

structure View where
  info : String → Except SystemError Info
  read : String → Except SystemError (List UInt8)
  walk : String → List Visit

def FileSystem.view (fs : FileSystem) : View := ⟨fs.info, fs.read, fs.walk⟩

end TagIndex.Files
