import DeviceTags.Operation
import DeviceTags.Store.Access

/-!
# The index of a cache

A cache finds tags by name through its heads. The first tag of a name creates the head; a head stays
when its last tag leaves. What a failed operation linked is unlinked again, and the heads that it
created are discarded.
-/

namespace DeviceTags

namespace Store

/-- The names of the heads of a cache, in the order of creation. -/
def headNames (store : Store) (c : CacheId) : List String :=
  (store.cache c).heads.map (·.1)

def registerHead (store : Store) (c : CacheId) (name : String) (h : HeadId) : Store :=
  store.updateCache c fun cache => { cache with heads := cache.heads ++ [(name, h)] }

def setTagHead (store : Store) (t : TagId) (h : Option HeadId) : Store :=
  store.updateTag t ({ · with head := h })

/-- Points a tag to the device that owns it, or to none. -/
def setTagDevice (store : Store) (t : TagId) (d : Option DeviceId) : Store :=
  store.updateTag t ({ · with device := d })

def enterHead (store : Store) (h : HeadId) (t : TagId) : Store :=
  store.updateHead h fun head => { head with tags := head.tags ++ [t] }

/-- Takes the first occurrence of a tag out of the list of a head, if there is one. -/
def leaveHead (store : Store) (h : HeadId) (t : TagId) : Store :=
  store.updateHead h fun head => { head with tags := head.tags.erase t }

/-- Unlinks a tag from its head; the list of its device stays as it is. -/
def unlinkFromHead (store : Store) (t : TagId) : Store :=
  match (store.tag t).head with
  | none => store
  | some h => (store.leaveHead h t).setTagHead t none

/-- Drops the heads of a cache that hold no tag, but those of the given names. -/
def discardHeads (store : Store) (c : CacheId) (kept : List String) : Store :=
  store.updateCache c fun cache =>
    { cache with heads := cache.heads.filter fun entry =>
        kept.contains entry.1 || !(store.head entry.2).tags.isEmpty }

end Store

namespace Index

/-- The head of a name in a cache, created if it is missing. -/
def obtainHead (c : CacheId) (name : String) : Op HeadId := do
  match ← Op.look (·.headOf? c name) with
  | some h => return h
  | none =>
    Op.request .head
    let h ← Op.newHead ⟨name, []⟩
    Op.edit (·.registerHead c name h)
    Op.log .debug .cache ("Creating new cache tag head " ++ name)
    return h

def link (c : CacheId) (t : TagId) : Op HeadId := do
  let h ← obtainHead c (← Op.tag t).name
  Op.edit (·.setTagHead t (some h))
  Op.request (.headSlot h)
  Op.edit (·.enterHead h t)
  return h

def unlink (t : TagId) : Op Unit :=
  Op.edit (·.unlinkFromHead t)

/-- Drops the empty heads of a cache, but those of the given names. -/
def discard (c : CacheId) (kept : List String) : Op Unit :=
  Op.edit (·.discardHeads c kept)

/-- The head of a name, if tags of that name were ever linked into the cache. -/
def find (c : CacheId) (name : Option String) : Op (Option HeadId) :=
  match name with
  | none | some "" => throw .tagTypeRequired
  | some name => Op.look (·.headOf? c name)

end Index

end DeviceTags
