import Typecase.Failure

/-! The store keeps a record for every token it has met and never forgets one. Tokens stay
in the order in which they arrived. A token is settled by the first record that says more
than that nothing is known; from then on its record cannot change. -/

namespace Typecase

/-- A token with what is remembered about its type. -/
structure Entry where
  token : Token
  record : Record
  deriving DecidableEq

namespace Entry

def vacant : Entry := ⟨.empty, .unresolved⟩

instance : Inhabited Entry := ⟨vacant⟩

def isVacant (entry : Entry) : Bool := entry.token.isEmpty

end Entry

structure Store where
  entries : List Entry
  distinct : (entries.map Entry.token).Nodup

/-- What the hash map under a store decides for itself: whether it can be made with room for so
many entries, and in which order a rehash finds them in it. The order may differ from one rehash
to the next, and it decides only which of several tokens of one slot is resident afterwards. -/
structure Backing where
  holds : Nat → Bool
  visit : Nat → List Entry → List Entry
  perm : ∀ round entries, (visit round entries).Perm entries

/-- A map without bounds that keeps its entries in the order of their arrival. -/
def Backing.arrival : Backing := ⟨fun _ => true, fun _ entries => entries, fun _ _ => .rfl⟩

namespace Store

def empty : Store := ⟨[], .nil⟩

def reserve (backing : Backing) (capacity : Nat) : Except Fault Store :=
  if backing.holds capacity then .ok empty else .error (.capacityOverflow capacity)

def size (store : Store) : Nat := store.entries.length

def isEmpty (store : Store) : Bool := store.entries.isEmpty

def tokens (store : Store) : List Token := store.entries.map Entry.token

def get? (store : Store) (token : Token) : Option Record :=
  (store.entries.find? (·.token == token)).map Entry.record

theorem get?_eq_none_iff (store : Store) (token : Token) :
    store.get? token = none ↔ token ∉ store.tokens := by
  simp [get?, tokens]

/-- Adds a token that is not there yet. -/
def insertNew (store : Store) (token : Token) (record : Record)
    (fresh : token ∉ store.tokens) : Store where
  entries := store.entries ++ [⟨token, record⟩]
  distinct := by
    have known : ∀ entry ∈ store.entries, entry.token ≠ token := fun entry member same =>
      fresh (List.mem_map.2 ⟨entry, member, same⟩)
    simpa [List.nodup_append, store.distinct] using known

/-- Gives every entry of the token another record. -/
def replace (store : Store) (token : Token) (record : Record) : Store where
  entries := store.entries.map fun entry =>
    if entry.token = token then { entry with record := record } else entry
  distinct := by
    have same : (store.entries.map fun entry =>
        if entry.token = token then { entry with record := record } else entry).map Entry.token
        = store.entries.map Entry.token := by
      rw [List.map_map]
      apply List.map_congr_left
      intro entry _
      simp only [Function.comp]
      split <;> rfl
    rw [same]
    exact store.distinct

/-- The record of a token. A new token is added as unresolved. -/
def fetch (store : Store) (token : Token) : Record × Store :=
  match found : store.get? token with
  | some record => (record, store)
  | none =>
    (.unresolved,
      store.insertNew token .unresolved ((store.get?_eq_none_iff token).1 found))

/-- Settles a token. Unresolved records say nothing and are passed over; a settled token
only accepts the record that it has. -/
def settle (store : Store) (token : Token) (record : Record) : Except Fault Store :=
  if record.isUnresolved then .ok store
  else
    match found : store.get? token with
    | none => .ok (store.insertNew token record ((store.get?_eq_none_iff token).1 found))
    | some stored =>
      if stored.isUnresolved then .ok (store.replace token record)
      else if stored = record then .ok store
      else .error (.settledConflict token stored record)

end Store

end Typecase
