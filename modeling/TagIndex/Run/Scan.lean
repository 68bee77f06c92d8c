import TagIndex.Files.Walk
import TagIndex.Run.Attempt
import TagIndex.Source.Reading
import TagIndex.Tag.Extraction
import TagIndex.Tag.File

/-! Scanning files. -/

namespace TagIndex
open Files

def scanFile (parse : String → Tree) (files : View) (path : String) : Attempt SourceFile := do
  let info ← Attempt.ofExcept ((files.info path).mapError (.readFailed path))
  Attempt.note ⟨.debug, "scanning", [("path", path), ("size", toString info.size)]⟩
  let bytes ← Attempt.ofExcept ((files.read path).mapError (.readFailed path))
  Attempt.ofExcept ((SourceFile.read parse path bytes).mapError (.parseFailed path))

def scanTags (parse : String → Tree) (files : View) (path : String) : Attempt (List Tag) := do
  let source ← scanFile parse files path
  Attempt.note ⟨.debug, "extracted", [("path", path), ("tags", toString source.tags.length)]⟩
  return source.tags

/-- Add the tags of files to a list, one file after the other, up to the first that fails. -/
def scanAll (parse : String → Tree) (files : View) (gathered : TagList) :
    List String → Attempt TagList
  | [] => pure gathered
  | path :: rest => do
    let tags ← scanTags parse files path
    scanAll parse files (gathered.extend tags) rest

end TagIndex
