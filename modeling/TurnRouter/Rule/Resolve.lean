import TurnRouter.Json.Writer
import TurnRouter.Rule.Placeholder
import TurnRouter.Rule.Segment
import TurnRouter.Turn

/-! # Resolving a rule

Every placeholder of a rule is replaced by the JSON text of its value in a context; raw code and
literals stay as they are. What is put in is never looked at again.
-/
namespace TurnRouter

structure Options where
  /-- The value of a session placeholder without one of its own. -/
  sessionDefault : Json := .null
  maxDepth : Nat := 64

namespace Rule

/-- A dotted name with an empty segment is no path, and its placeholder has the default value. -/
def sessionValue (ctx : Context) (opts : Options) (name : Text) : Json :=
  match Path.parse name with
  | .ok _ => ctx.sessionValue name opts.sessionDefault
  | .error _ => opts.sessionDefault

def Family.value (ctx : Context) (opts : Options) (name : Text) : Family → Json
  | intent => .bool (ctx.intent = some name)
  | session => sessionValue ctx opts name
  | slot => (ctx.slot name).elim .null .str
  | requestType => .bool (ctx.requestType = name)

def Span.resolve (ctx : Context) (opts : Options) : Span → Text
  | raw s => s
  | placeholder f name => (f.value ctx opts name).write

def resolveCode (ctx : Context) (opts : Options) (code : Text) : Text :=
  (spans code).flatMap (Span.resolve ctx opts)

def Segment.resolve (ctx : Context) (opts : Options) : Segment → Text
  | code s => resolveCode ctx opts s
  | literal s => s

def resolve (ctx : Context) (opts : Options) (segments : List Segment) : Text :=
  segments.flatMap (Segment.resolve ctx opts)

end Rule
end TurnRouter
