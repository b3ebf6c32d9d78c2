import Stencil.Site.Page
import Stencil.Value.Reading
/-!
Menus from configuration. An entry needs a name and an address; menus are in the order of their
entries' weights.
-/

namespace Stencil.Menu

private def isExternal (url : Text) : Bool :=
  ["http://", "https://", "//"].any fun start => start.toList.isPrefixOf url

def field (entries : List (Value × Value)) (name : String) : Value :=
  (Value.find? (.ofString name) entries).getD .nil

def entry? : Value → Except Fault (Option MenuEntry)
  | .map entries => do
      let name := field entries "name"
      let url := field entries "url"
      if !name.truthy || !url.truthy then return none
      let weight := field entries "weight"
      let weight ← if weight.truthy then weight.wholeNumber? else pure (some 0)
      let url ← url.display
      return some ⟨← name.display, url, weight.getD 0, isExternal url⟩
  | _ => .ok none

/-- The menus of a configuration by name; whatever is no mapping of lists is left out. -/
def ofConfig : Value → Except Fault (List (Text × List Value))
  | .map entries =>
      entries.foldlM
        (fun menus (name, items) => do
          match items with
          | .list items =>
              let items := (← items.mapM entry?).filterMap id
              let sorted ← sortByKey (fun a b => .ok (decide (a < b))) (items.map fun e => (e.weight, e))
              let name ← name.display
              let items := sorted.map Value.menuEntry
              if menus.any (·.1 == name) then
                return menus.map fun (n, old) => if n == name then (n, items) else (n, old)
              else return menus ++ [(name, items)]
          | _ => return menus)
        []
  | _ => .ok []

end Stencil.Menu
