import ClusterTutor.Catalogue.Basic
import ClusterTutor.Data.Document

/-!
# Content files

Content may be read from a directory. Every file whose name ends in `.json` is one
source, and sources are taken in the order of their names. A file holds one document in
UTF-8, which a byte order mark may precede.
-/

namespace ClusterTutor

/-- A file with content. -/
structure ContentFile where
  /-- The name of the file in its directory. -/
  name : String
  /-- What it holds. -/
  bytes : ByteArray

namespace ContentFile

/-- Whether a file is a source. -/
def isSource (f : ContentFile) : Bool := f.name.endsWith ".json"

/-- The sources among files, in the order of their names. -/
def sources (files : List ContentFile) : List ContentFile :=
  Text.sortedBy name (files.filter isSource)

/-- A text without the byte order mark that may precede it. -/
def withoutMark (s : String) : String :=
  match s.toList with
  | '\uFEFF' :: cs => String.ofList cs
  | _ => s

/-- The fault of a source whose document cannot be read. -/
def faultOf : Document.Fault → SourceFault
  | .malformed => .notDocument
  | .numeralTooLong => .numeralTooLong

/-- What a file delivers. -/
def delivery (f : ContentFile) : Delivery :=
  match String.fromUTF8? f.bytes with
  | none => .error .notText
  | some s => (Document.read (withoutMark s)).mapError faultOf

/-- What the sources among files deliver. -/
def deliveries (files : List ContentFile) : List Delivery :=
  (sources files).map delivery

/-- The documents of the sources among files; the first fault ends the reading. -/
def documents (files : List ContentFile) : Except SourceFault (List Value) :=
  (deliveries files).mapM id

end ContentFile

end ClusterTutor
