import BenchFigures.Chart.Sketch
import BenchFigures.Image.Jpeg
import BenchFigures.Workspace

/-!
# Saving pictures

A picture is saved in the format that the extension of its file names. A format
that is known but cannot be written leaves an empty file behind, and a picture too
large for its format leaves only the start of one; an unknown format touches
nothing. A drawing that stopped early is saved as far as it got, and then
fails with its own cause, whether or not saving succeeded. A drawing that never
comes to an end is not saved.
-/

namespace BenchFigures

variable [DrawingLibrary]

/-- The content of the file of a picture in a format. -/
def Picture.content (picture : Picture) (format : Image.Format) : Content :=
  .picture (Thunk.mk fun _ => DrawingLibrary.encode format picture) picture

/-- Write a picture to a file. -/
def Picture.write (picture : Picture) (path : Path) :
    ExceptT SavingFault (StateM Workspace) Unit :=
  let create (content : Content) := ExceptT.adapt SavingFault.file (Action.writeFile path content)
  match path.extension? with
  | none => throw (.unknownFormat none)
  | some extension =>
    match Image.recognize extension with
    | .writable .jpeg =>
      if max picture.width picture.height ≤ Image.Jpeg.sizeLimit then
        create (picture.content .jpeg)
      else do
        create (.plain Image.Jpeg.opening)
        throw .oversized
    | .writable format => create (picture.content format)
    | .refused name => do
      create (.plain [])
      throw (.refusedFormat name)
    | .unknown => throw (.unknownFormat (some extension))

/-- Save a drawing of a given size. -/
def Sketch.save (sketch : Sketch) (width height : Nat) (path : Path) : Action Unit :=
  match sketch.failure with
  | some .endlessSearch => Action.fail .endlessSearch
  | stopped => do
    let saved ← ExceptT.lift ((Picture.mk width height sketch.marks).write path).run
    match stopped, saved with
    | some cause, _ => Action.fail cause
    | none, .error fault => Action.fail (.drawing (.saving fault))
    | none, .ok () => Action.report (.saved path)

end BenchFigures
