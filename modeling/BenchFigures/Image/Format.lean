/-!
# Picture formats

The extension of a file, in any case, names the format its picture is written in.
Three formats can be written. Others are recognized but refused, and the rest are
not known as picture formats at all.
-/

namespace BenchFigures.Image

/-- A format that pictures are written in. -/
inductive Format where
  | png
  | jpeg
  | bitmap
  deriving DecidableEq, Repr

/-- What an extension says about the format. -/
inductive Recognized where
  | writable (format : Format)
  /-- A known format that cannot be written, by the name it has in messages. -/
  | refused (name : String)
  | unknown
  deriving DecidableEq, Repr

/-- The format of an extension. -/
def recognize (extension : String) : Recognized :=
  match String.ofList (extension.toList.map Char.toLower) with
  | "png" => .writable .png
  | "jpg" | "jpeg" => .writable .jpeg
  | "bmp" => .writable .bitmap
  | "gif" => .refused "Gif"
  | "webp" => .refused "WebP"
  | "tif" | "tiff" => .refused "Tiff"
  | "tga" => .refused "Tga"
  | "dds" => .refused "Dds"
  | "ico" => .refused "Ico"
  | "hdr" => .refused "Hdr"
  | "exr" => .refused "OpenExr"
  | "pbm" | "pam" | "ppm" | "pgm" => .refused "Pnm"
  | "ff" | "farbfeld" => .refused "Farbfeld"
  | "avif" => .refused "Avif"
  | "qoi" => .refused "Qoi"
  | _ => .unknown

end BenchFigures.Image
