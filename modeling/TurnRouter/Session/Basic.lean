import TurnRouter.Json.Basic
import TurnRouter.Session.Path

/-! # Session memory

A session is a JSON object of attributes, addressed by paths. Writing turns whatever stands in
the way into an object; removing leaves the objects around the removed value in place.
-/
namespace TurnRouter

namespace Json

/-- The value under a list of keys; only objects have anything below them. -/
def follow? : List Text → Json → Option Json
  | [], v => some v
  | key :: keys, v => (v.member? key).bind (follow? keys)

def put (value : Json) : List Text → Json → Json
  | [], _ => value
  | key :: keys, v => .obj (Fields.insert key (put value keys ((v.member? key).getD .null)) v.fields)

/-- Takes the value at the end of a list of keys out: that value, if there is one, and the rest.
Where a key is missing, or no object is met, nothing changes. -/
def detach : List Text → Json → Option Json × Json
  | [key], .obj fs => (Fields.find? key fs, .obj (Fields.erase key fs))
  | key :: keys, .obj fs =>
    match Fields.find? key fs with
    | some v =>
      let part := detach keys v
      (part.1, .obj (Fields.insert key part.2 fs))
    | none => (none, .obj fs)
  | _, v => (none, v)

end Json

structure Session where
  attributes : Fields Json

namespace Session

def empty : Session := ⟨[]⟩

/-- Any value but an object is an empty session. -/
def ofJson (v : Json) : Session := ⟨v.fields⟩
def toJson (s : Session) : Json := .obj s.attributes

def get? (s : Session) (p : Path) : Option Json := s.toJson.follow? p.segments
def get (s : Session) (p : Path) (default : Json) : Json := (s.get? p).getD default
def set (s : Session) (p : Path) (value : Json) : Session := ofJson (.put value p.segments s.toJson)

/-- The value at a path, if there is one, and the session without it. -/
def detach (s : Session) (p : Path) : Option Json × Session :=
  let part := Json.detach p.segments s.toJson
  (part.1, ofJson part.2)

def remove (s : Session) (p : Path) : Session := (s.detach p).2

/-- An invalid path reads as absent. -/
def getText (s : Session) (path : Text) (default : Json) : Json :=
  match Path.parse path with
  | .ok p => s.get p default
  | .error _ => default

def setText (s : Session) (path : Text) (value : Json) : Except InvalidPath Session :=
  (Path.parse path).map (s.set · value)

end Session
end TurnRouter
