import Stencil.Site.Collection
/-!
The ways from one page of a site to others: the trail down to it, its neighbours in its section, its
section page and the pages below it, and pages that share its tags.
-/

namespace Stencil.Navigation

def sectionIndex? (section_ : Value) (pages : List Page) : Option Page :=
  pages.find? fun p => p.kindIs "section" && p.section_.eq section_

/-- The sections above and including `section_`, outermost first, with their last segments. -/
def ancestors (section_ : Text) : List (Text × Text) :=
  let parts := (section_.splitAt '/').filter (!·.isEmpty)
  (List.range parts.length).map fun i =>
    (Text.join ['/'] (parts.take (i + 1)), (parts[i]?).getD [])

/-- The trail from the root of the site to a page. Its last step is the active one. -/
def breadcrumbs (page : Page) (pages : List Page) (homeTitle : Text) :
    Except Fault (List Crumb) := do
  let homeTitle := if homeTitle.isEmpty then "Home".toList else homeTitle
  let isHome := page.kindIs "home"
  let home : Crumb := ⟨.text homeTitle, .text ['/'], isHome⟩
  if isHome then return [home]
  let section_ ← page.section_.textOrNoSuch
  let trail := (ancestors section_).map fun (path, segment) =>
    let title :=
      match sectionIndex? (.text path) pages with
      | some index => index.title
      | none => .text (Text.humanize segment)
    (⟨title, .text ('/' :: path ++ ['/']), false⟩ : Crumb)
  let trail := home :: trail
  if page.kindIs "section" then
    let last := trail.getLast?.getD home
    return trail.dropLast ++ [{ last with active := true }]
  else return trail ++ [⟨page.title, page.url, true⟩]

def sectionPages (section_ : Value) (pages : List Page) : Except Fault (List Page) :=
  let members := pages.filter fun p => p.section_.eq section_ && p.kindIs "single"
  sortByKeyDescending Value.lt? (members.map fun p => (p.sortDate, p))

def sectionNav (page : Page) (pages : List Page) : Except Fault SectionNav := do
  if !page.kindIs "single" then return ⟨.nil, .nil⟩
  let ordered ← sectionPages page.section_ pages
  let pageAt (i : Nat) : Value := ((ordered[i]?).map Value.page).getD .nil
  match ordered.findIdx? (·.isSamePage page) with
  | none => return ⟨.nil, .nil⟩
  | some i => return ⟨if i = 0 then .nil else pageAt (i - 1), pageAt (i + 1)⟩

/-- The page of the section that a page lies in; the home page at the root. -/
def parent (page : Page) (pages : List Page) : Except Fault (Option Page) := do
  let owner ←
    if page.kindIs "section" then do
      let section_ ← page.section_.textOrNoSuch
      pure (Value.text (Text.join ['/'] (section_.splitAt '/').dropLast))
    else pure page.section_
  if !owner.truthy && !page.kindIs "home" then return pages.find? (·.kindIs "home")
  else return sectionIndex? owner pages

def children (page : Page) (pages : List Page) : Except Fault (List Page) :=
  if page.kindIs "section" || page.kindIs "home" then sectionPages page.section_ pages else .ok []

/-- The single pages that share tags with a page, by the number of shared tags and then by date,
both descending. -/
def related (page : Page) (pages : List Page) (count : Int) : Except Fault (List Page) := do
  let wanted := Value.distinct (← page.tags.keys)
  if wanted.isEmpty then return []
  let scored ← pages.filterMapM fun candidate => do
    if candidate.isSamePage page || !candidate.kindIs "single" then return none
    let shared := Value.distinct ((← candidate.tags.keys).filter (·.isIn wanted))
    if shared.isEmpty then return none
    return some ((Value.int shared.length, candidate.sortDate), candidate)
  let ranked ← sortByKeyDescending (pairLt? Value.eq Value.lt? Value.lt?) scored
  return ranked.take count.toNat

end Stencil.Navigation
