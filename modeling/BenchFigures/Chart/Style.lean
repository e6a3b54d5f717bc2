import BenchFigures.Chart.Library
import BenchFigures.Workspace

/-!
# Chart style

A chart is drawn with labels if a font is registered for them, and plain
otherwise. A font file is read once: asking again for the font registered last
does not look at the file, which may be gone by then. A font that cannot be read
or is not valid leaves the registered one in place.

What makes bytes a font is up to the library that draws with it. A font is always
registered for one and the same family, so its name does not appear.
-/

namespace BenchFigures

/-- How charts are drawn. -/
structure Style where
  labelled : Bool
  deriving DecidableEq, Repr

namespace Style

/-- Bars, gridlines and axes only. -/
def plain : Style := ⟨false⟩

/-- The places where a font is looked for if none is configured. -/
def knownFonts : List Path :=
  [⟨"/usr/share/fonts/truetype/dejavu/DejaVuSans.ttf"⟩,
   ⟨"/usr/share/fonts/dejavu/DejaVuSans.ttf"⟩,
   ⟨"/usr/share/fonts/TTF/DejaVuSans.ttf"⟩,
   ⟨"/usr/share/fonts/dejavu-sans-fonts/DejaVuSans.ttf"⟩,
   ⟨"/usr/share/fonts/truetype/liberation/LiberationSans-Regular.ttf"⟩,
   ⟨"/usr/share/fonts/liberation/LiberationSans-Regular.ttf"⟩,
   ⟨"/System/Library/Fonts/Supplemental/Arial.ttf"⟩,
   ⟨"/Library/Fonts/Arial.ttf"⟩,
   ⟨"C:\\Windows\\Fonts\\arial.ttf"⟩]

/-- Whether the font registered last is that at a path. -/
def isRegistered (registered : Option Font) (path : Path) : Bool :=
  match registered with
  | some font => font.path.same path
  | none => false

/-- Register the font at a path, unless it is registered already, if its bytes are
accepted as a font. -/
def registerBy (accepts : List UInt8 → Bool) (path : Path) : Action Unit := do
  let workspace ← get
  if isRegistered workspace.font path then return ()
  let bytes ← (Action.readBytes path).during (.readingFont path)
  if accepts bytes then set { workspace with font := some (Font.mk path bytes) }
  else Action.fail (.invalidFont path)

/-- The style that uses a font: the given one, or the first that is found. Without
any, charts are plain. -/
def withFontBy (accepts : List UInt8 → Bool) (font : Option Path) : Action Style := do
  let isFile ← Action.look fun tree working path => tree.isFile working path
  match font <|> knownFonts.find? isFile with
  | some path =>
    registerBy accepts path
    Action.report (.chartFont path)
    return ⟨true⟩
  | none =>
    Action.report .noFont
    return plain

/-- The style that uses a font that the library accepts. -/
def withFont [DrawingLibrary] (font : Option Path) : Action Style :=
  withFontBy DrawingLibrary.accepts font

end Style

end BenchFigures
