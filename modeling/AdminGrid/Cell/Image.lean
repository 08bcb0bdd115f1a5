import AdminGrid.Descriptor.Column
import AdminGrid.Disk
import AdminGrid.Failure
import AdminGrid.Text.Escape
import AdminGrid.Value.Form

/-!
# Image cells

A cell that names an image file is shown as the image, or as its thumbnail where one is there.  A
file that is missing is shown as a note with its name.
-/

namespace AdminGrid.Cell

/-! ## Asset files

The files that image cells may point to.  A path is followed one name at a time from the root of the
assets: empty names and `.` stay where they are, `..` leads to the enclosing directory, and a name
leads into a directory or to a file that is there. -/

/-- The files below the root of the assets, each by the names on the way to it. -/
structure Assets where
  files : List (List String)

namespace Assets

/-- No files. -/
def none : Assets := ⟨[]⟩

/-- The names on a path. -/
def namesOn (path : String) : List String := (Path.of path).names

/-- The assets at the given paths. -/
def ofPaths (paths : List String) : Assets := ⟨paths.map namesOn⟩

/-- The most bytes that a name, and a whole path, may have. -/
def maxName : Nat := 255

@[inherit_doc maxName]
def maxPath : Nat := 4095

/-- Whether some file lies below a directory, so that the directory is there. -/
def hasDirectory (a : Assets) (dir : List String) : Bool :=
  dir.isEmpty || a.files.any fun file => dir.isPrefixOf file && file != dir

/-- Where a path leads from a directory, if it leads to something that is there. -/
def follow (a : Assets) (dir : List String) : List String → Option (List String)
  | [] => some dir
  | name :: rest =>
      if name = ".." then
        if dir.isEmpty || !a.hasDirectory dir then Option.none else follow a dir.dropLast rest
      else if maxName < name.utf8ByteSize || !a.hasDirectory dir then Option.none
      else
        let next := dir ++ [name]
        if a.files.contains next || a.hasDirectory next then follow a next rest else Option.none

/-- Whether a path leads to a file. -/
def has (a : Assets) (path : String) : Bool :=
  if path.toList.contains '\x00' || maxPath < path.utf8ByteSize then false
  else match a.follow [] (namesOn path) with
    | some place => a.files.contains place
    | Option.none => false

end Assets

/-! ## Images -/

/-- The endings of image files. -/
def imageExtensions : List String := ["jpg", "jpeg", "png", "gif"]

/-- Whether a text names an image file. -/
def namesImage (s : String) : Bool :=
  match Text.cutLast? '.' s with
  | some (_, ending) => imageExtensions.contains (Text.lower ending)
  | none => false

/-- Whether a cell names an image file. -/
def looksLikeImage : Value → Bool
  | .text s => namesImage s
  | _ => false

/-- The last name on a path. -/
def lastSegment (path : String) : String :=
  Text.afterLast '/' (Text.stripEnd '/' path)

/-- Where the thumbnail of an image is kept by convention. -/
def conventionalThumbnail (path : String) : String :=
  match Text.cutLast? '/' path with
  | some (directory, name) => directory ++ "/thumb/tnail_" ++ name
  | none => "/thumb/tnail_" ++ path

/-- The file to show for an image: the thumbnail that the row names, the conventional one, or the
image itself, whichever is there first. -/
def thumbnailFor (assets : Assets) (path : String) (thumb : Value) : String :=
  match thumb with
  | .text named =>
      if named = "" then byConvention else if assets.has named then named else path
  | _ => byConvention
where
  /-- The conventional thumbnail where it is there, else the image itself. -/
  byConvention : String :=
    let conventional := conventionalThumbnail path
    if assets.has conventional then conventional else path

/-- Succeeds when a file is there. -/
def requireFile (assets : Assets) (path : String) : Attempt Unit :=
  if assets.has path then .ok () else .error (.missingFile path)

/-- The note that stands for a missing file. -/
def missingFileNote (path : String) : String :=
  let name := Text.escape (lastSegment path)
  "<div class=\"show-hidden-on-hover missing-file\" title=\"This File [ " ++ name ++
    " ] Do Not or Never Exist!\"><i class=\"fa fa-warning\"></i>&nbsp;" ++ name ++ "</div>"

/-- The markup of an image. -/
def imageTag (src alt : String) : String :=
  "<center><img class=\"cdy-img-thumb\" src=\"" ++ Text.escape src ++ "\" alt=\"" ++
    Text.escape alt ++ "\" /></center>"

/-- An image cell as it is shown. -/
def renderImage (assets : Assets) (field : String) (cell : Value)
    (row : List (String × Value)) : String :=
  if cell.isBlank then ""
  else
    let path := cell.cellText
    if !namesImage path then lastSegment path
    else if !assets.has path then missingFileNote path
    else
      let src := thumbnailFor assets path (cellAt row (field ++ "_thumb"))
      imageTag src ("imgsrc::" ++ humanize (Text.replaceChar '-' "_" field))

/-- The cell of an image column, if the raw cell can be written out. -/
def imageCell (assets : Assets) (field : String) (cell : Value) (row : List (String × Value)) :
    Attempt Value :=
  if cell.isWritable then .ok (.text (renderImage assets field cell row)) else .error .badValue

end AdminGrid.Cell
