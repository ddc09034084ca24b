/-!
# Response formats

A table of formats in order of preference, and the choice of one by the media types that a client
accepts.
-/

namespace PathRoute

/-- A format: its short name and its media type. -/
structure Format where
  name : String
  mime : String
  deriving DecidableEq, Repr

structure Formats where
  entries : List Format
  deriving DecidableEq, Repr

namespace Formats

/-- The format where none fits. -/
def fallback : String := "json"

def defaults : Formats := ⟨[⟨"json", "application/json"⟩, ⟨"xml", "application/xml"⟩]⟩

/-- The entries with the first of a format's name replaced by it, or with it at the end. -/
def place (f : Format) : List Format → List Format
  | [] => [f]
  | g :: gs => if g.name = f.name then f :: gs else g :: place f gs

/-- Add a format, in the place of the first one of its name if there is one. -/
def insert (t : Formats) (f : Format) : Formats := ⟨place f t.entries⟩

def contains (t : Formats) (name : String) : Bool := t.entries.any (·.name == name)

/-- The media type of a format. -/
def mime? (t : Formats) (name : String) : Option String :=
  (t.entries.find? (·.name == name)).map (·.mime)

/-- Whether a format's media type occurs in what a client accepts. -/
def Accepted (accept : String) (f : Format) : Prop := f.mime.toList <:+: accept.toList

instance (accept : String) (f : Format) : Decidable (Accepted accept f) :=
  inferInstanceAs (Decidable (_ <:+: _))

/-- The name of the format to answer in: the pinned one, else the first that is accepted. -/
def negotiate (t : Formats) (accept : String) (pinned : Option String) : String :=
  pinned.getD <| ((t.entries.find? (Accepted accept ·)).map (·.name)).getD fallback

end Formats

end PathRoute
