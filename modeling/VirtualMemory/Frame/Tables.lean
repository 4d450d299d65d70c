/-
Module: VirtualMemory.Frame.Tables
Purpose: Where pages are, and which page each frame holds.
Main exports:
  PageTables and its put, remove, removeAll, get, getAll, owner, markAccessed,
  checkConsistency

The forward table answers where a page of a process is, and the core map
answers whose page a frame holds. They are only changed together.
-/
import VirtualMemory.Failure
import VirtualMemory.Translation

namespace VirtualMemory

open Text

/-- The forward table and the core map. -/
structure PageTables where
  forward : Std.ExtTreeMap PageId TranslationEntry
  coreMap : Array (Option PageId)
deriving DecidableEq

/-- The page that an entry of a process maps. -/
def TranslationEntry.page (entry : TranslationEntry) (pid : Pid) : PageId :=
  { pid := pid, vpn := entry.vpn }

/-- A page as the owner of a frame, in reports. -/
def PageId.describeOwner (page : PageId) : String :=
  s!"CoreMapEntry \x7b pid: {page.pid.toNat}, vpn: {page.vpn.toNat} \x7d"

namespace PageTables

/-- Tables for `count` frames, with nothing mapped. -/
def empty (count : Nat) : PageTables :=
  { forward := ∅
    coreMap := Array.replicate count none }

/-- The number of frames. -/
def frameCount (tables : PageTables) : Nat := tables.coreMap.size

/-- The entry of a page, if it is resident. -/
def get (tables : PageTables) (page : PageId) : Option TranslationEntry :=
  tables.forward[page]?

theorem get_empty (count : Nat) (page : PageId) : (empty count).get page = none := by
  simp [get, empty]

/-- The page that a frame holds. -/
def owner (tables : PageTables) (ppn : Ppn) : Option PageId :=
  tables.coreMap[ppn]?.join

/-- Every entry with its page, ordered by process and page number. -/
def mappings (tables : PageTables) : List (PageId × TranslationEntry) :=
  tables.forward.toList

/-- The resident pages of a process, in page order. -/
def getAll (tables : PageTables) (pid : Pid) : List TranslationEntry :=
  (tables.mappings.filter fun mapping => mapping.1.pid == pid).map Prod.snd

/-- The frames that hold a page, in frame order. -/
def mappedFrames (tables : PageTables) : List Ppn :=
  (List.range tables.frameCount).filter fun ppn => (tables.owner ppn).isSome

/-- The number of frames that hold a page. -/
def residentCount (tables : PageTables) : Nat :=
  tables.coreMap.countP Option.isSome

/-- The core map with a frame's owner changed. -/
def setOwner (coreMap : Array (Option PageId)) (ppn : Ppn)
    (owner : Option PageId) : Array (Option PageId) :=
  coreMap.setIfInBounds ppn owner

/-- Unmaps a page and answers the entry it had. -/
def remove (tables : PageTables) (page : PageId) :
    Option TranslationEntry × PageTables :=
  match tables.get page with
  | none => (none, tables)
  | some entry =>
      (some entry,
        { forward := tables.forward.erase page
          coreMap := setOwner tables.coreMap entry.ppn none })

theorem get_remove (tables : PageTables) (page other : PageId) :
    (tables.remove page).2.get other = if page = other then none else tables.get other := by
  simp only [remove]
  split
  · next absent =>
    split
    · next same => rw [← same, absent]
    · rfl
  · simp only [get, Std.ExtTreeMap.getElem?_erase, Std.LawfulEqCmp.compare_eq_iff_eq]

/-- Unmaps every page of a process and answers their entries, in page order. -/
def removeAll (tables : PageTables) (pid : Pid) :
    List TranslationEntry × PageTables :=
  let entries := tables.getAll pid
  (entries,
    { forward := tables.forward.filter fun page _ => page.pid != pid
      coreMap :=
        entries.foldl (fun coreMap entry => setOwner coreMap entry.ppn none)
          tables.coreMap })

theorem get_removeAll (tables : PageTables) (pid : Pid) (page : PageId) :
    (tables.removeAll pid).2.get page = if page.pid = pid then none else tables.get page := by
  simp only [removeAll, get, Std.ExtTreeMap.getElem?_filter, Std.ExtTreeMap.getKey_eq,
    Option.pfilter_eq_filter]
  by_cases same : page.pid = pid
  · simp [same]
  · cases tables.forward[page]? <;> simp [same]

/-- Why a valid entry of a process cannot be mapped, if there is a reason: the
page does not exist, the frame does not exist, or the frame holds another
page. -/
def refusal (tables : PageTables) (pid : Pid) (entry : TranslationEntry) :
    Option PagingError :=
  if lastPage < entry.vpn then some (.invalidPage entry.vpn)
  else
    match tables.coreMap[entry.ppn]? with
    | none => some (.invalidFrame entry.ppn)
    | some none => none
    | some (some owner) =>
        if owner = entry.page pid then none else some (.frameInUse entry.ppn owner)

/-- Maps a page to a frame in place of what the page was mapped to before.
The frame it leaves, if it leaves one, holds no page afterwards. -/
def replace (tables : PageTables) (pid : Pid) (entry : TranslationEntry) :
    Option TranslationEntry × PageTables :=
  let previous := tables.get (entry.page pid)
  let vacated :=
    match previous with
    | some old =>
        if old.ppn = entry.ppn then tables.coreMap
        else setOwner tables.coreMap old.ppn none
    | none => tables.coreMap
  (previous,
    { forward := tables.forward.insert (entry.page pid) entry
      coreMap := setOwner vacated entry.ppn (some (entry.page pid)) })

theorem get_replace (tables : PageTables) (pid : Pid) (entry : TranslationEntry)
    (page : PageId) :
    (tables.replace pid entry).2.get page =
      if entry.page pid = page then some entry else tables.get page := by
  simp only [replace, get, Std.ExtTreeMap.getElem?_insert, Std.LawfulEqCmp.compare_eq_iff_eq]

/-- Records an entry for a process and answers the entry it replaces. An entry
that is not valid unmaps its page instead. -/
def put (tables : PageTables) (pid : Pid) (entry : TranslationEntry) :
    Except PagingError (Option TranslationEntry × PageTables) :=
  if entry.valid then
    match tables.refusal pid entry with
    | some cause => .error cause
    | none => .ok (tables.replace pid entry)
  else .ok (tables.remove (entry.page pid))

/-- Records an access to a resident page. Only a store to a writable page makes
it dirty. -/
def markAccessed (tables : PageTables) (page : PageId) (write : Bool) :
    Option TranslationEntry × PageTables :=
  match tables.get page with
  | none => (none, tables)
  | some entry =>
      let touched := entry.touch (write && !entry.readOnly)
      (some touched, { tables with forward := tables.forward.insert page touched })

/-- A process and page as consistency reports name them. -/
def describePage (page : PageId) : String :=
  s!"{page.pid.toNat}:{hexNumeral page.vpn.toNat}"

/-- What is wrong with one entry of the forward table, if anything is. -/
def entryDefect (tables : PageTables) (page : PageId) (entry : TranslationEntry) :
    Option String :=
  if entry.vpn ≠ page.vpn || !entry.valid then
    some s!"entry for {describePage page} is {entry.describe}"
  else if tables.owner entry.ppn ≠ some page then
    let found :=
      match tables.owner entry.ppn with
      | none => "None"
      | some owner => s!"Some({owner.describeOwner})"
    some s!"{describePage page} maps frame {entry.ppn} owned by {found}"
  else none

/-- What is wrong with one frame of the core map, if anything is. -/
def frameDefect (tables : PageTables) (ppn : Ppn) : Option String :=
  match tables.owner ppn with
  | none => none
  | some owner =>
      if (tables.get owner).map TranslationEntry.ppn = some ppn then none
      else
        some s!"frame {ppn} claims {describePage owner}, which is not mapped there"

/-- What is wrong with the numbers of mappings, if anything is. -/
def countDefect (tables : PageTables) : Option String :=
  let mapped := tables.mappings.length
  if mapped = tables.residentCount then none
  else some s!"{mapped} mappings but {tables.residentCount} frames in use"

/-- Checks that the forward table and the core map describe the same mappings,
and names the first place where they do not. -/
def checkConsistency (tables : PageTables) : Except PagingError Unit :=
  let entryDefects :=
    tables.mappings.findSome? fun mapping => tables.entryDefect mapping.1 mapping.2
  let frameDefects := tables.mappedFrames.findSome? tables.frameDefect
  match entryDefects.or (frameDefects.or tables.countDefect) with
  | some detail => .error (.inconsistent detail)
  | none => .ok ()

end PageTables

end VirtualMemory
