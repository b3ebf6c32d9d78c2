import Stencil.Function.Basic
import Stencil.Markup.Tags
import Stencil.Url.Split
/-!
Functions on addresses.
-/

namespace Stencil.Function

def isAbsolute (url : Text) : Bool :=
  ["http://", "https://", "//"].any fun start => start.toList.isPrefixOf url

def relativeUrl : Function where
  required := []
  optional := some 2
  run := fun _ args => do
    let target ← (arg args 0).joined
    if isAbsolute target then return .text target
    let base ← Url.split (← (arg args 1).joined)
    return .text
      (Text.dropWhileEnd (· == '/') base.path ++ '/' :: target.dropWhile (· == '/'))

def absoluteUrl : Function where
  required := []
  optional := some 2
  run := fun _ args => do
    let target ← (arg args 0).joined
    if isAbsolute target then return .text target
    return .text (Markup.joinRoot (← (arg args 1).joined) target)

def part (f : Url → Value) : Function where
  required := []
  optional := some 1
  run := fun _ args => do return f (← Url.split (← (arg args 0).joined))

def joinUrls : Function where
  required := []
  optional := some 2
  run := fun _ args => do
    let base ← (arg args 0).joined
    return .text (← Url.join base (← (arg args 1).joined))

def addresses : List (String × Function) :=
  [ ("relative_url", relativeUrl),
    ("absolute_url", absoluteUrl),
    ("url_encode", mapText Url.encode),
    ("url_decode", mapText Url.decode),
    ("url_scheme", part fun u => .text u.scheme),
    ("url_host", part fun u => .text u.host),
    ("url_path", part fun u => .text u.path),
    ("url_query", part fun u => .text u.query),
    ("url_fragment", part fun u => .text u.fragment),
    ("is_absolute_url", part fun u => .bool !u.scheme.isEmpty),
    ("url_join", joinUrls) ]

end Stencil.Function
