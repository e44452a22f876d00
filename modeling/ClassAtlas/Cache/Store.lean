import ClassAtlas.Cache.Moment
import ClassAtlas.Json.Printer
import ClassAtlas.Json.Reader

/-!
A store of JSON values that expire.

Every key written is tracked until it is removed, so that dropping everything removes exactly what
was written. Time is given by the caller and may run in either direction.
-/

namespace ClassAtlas

/-- A stored value as text, with the time from which it no longer counts. -/
structure StoredEntry where
  payload : String
  expiresAt : Int
deriving DecidableEq, Repr

/-- A store. -/
structure Store where
  /-- How long values count when nothing else is said, in seconds. -/
  lifetime : Int
  entries : List (String × StoredEntry)
  /-- Keys written and not removed since. -/
  tracked : List String
deriving DecidableEq, Repr

namespace Store

/-- One day. -/
def defaultLifetime : Int := 86400

/-- A store without entries. -/
def empty (lifetime : Int) : Store := ⟨lifetime, [], []⟩

/-- Removes a key. -/
def forget (store : Store) (key : String) : Store :=
  { store with
    entries := store.entries.filter (·.1 != key)
    tracked := store.tracked.filter (· != key) }

/-- The complaint about a stored integer with too many digits. -/
def longIntegerMessage (digits : Nat) : String :=
  "Exceeds the limit (" ++ Text.decimal Text.maxNumeralDigits ++
    " digits) for integer string conversion: value has " ++ Text.decimal digits ++
    " digits; use sys.set_int_max_str_digits() to increase the limit"

/-- The value under a key. An expired value, or one that is not JSON, is removed; a null counts as
no value. A value that is JSON and too large to be read is a fault and stays. -/
def get (store : Store) (now : Int) (key : String) : Except Fault (Option Json) × Store :=
  match store.entries.lookup key with
  | none => (.ok none, store)
  | some entry =>
    if entry.expiresAt ≤ now then (.ok none, store.forget key)
    else match Json.parse entry.payload with
      | .ok .null => (.ok none, store)
      | .ok value => (.ok (some value), store)
      | .error .malformed => (.ok none, store.forget key)
      | .error (.longInteger digits) => (.error (.badValue (longIntegerMessage digits)), store)
      | .error .tooNested => (.error .tooNested, store)

/-- The complaint about an integer to be stored with too many digits. -/
def longNumeralMessage : String :=
  "Exceeds the limit (" ++ Text.decimal Text.maxNumeralDigits ++
    " digits) for integer string conversion; use sys.set_int_max_str_digits() to increase the limit"

/-- Stores a value under a key, in place of what was there. A value that cannot be written is a
fault. -/
def put (store : Store) (now : Int) (key : String) (value : Json) (lifetime : Option Int) :
    Except Fault Store := do
  if value.hasLongInteger then throw (.badValue longNumeralMessage)
  if Json.maxDepth < value.nesting then throw .tooNested
  let entry : StoredEntry := ⟨value.renderAscii, ← Moment.after now (lifetime.getD store.lifetime)⟩
  return { store with
    entries := store.entries.filter (·.1 != key) ++ [(key, entry)]
    tracked := if store.tracked.contains key then store.tracked else store.tracked ++ [key] }

/-- The tracked keys in order of their code points. -/
def trackedKeys (store : Store) : List String := store.tracked.mergeSort fun a b => decide (a ≤ b)

/-- Removes all tracked keys; the number is how many there were. -/
def invalidateAll (store : Store) : Nat × Store :=
  (store.tracked.length,
    { store with
      entries := store.entries.filter (!store.tracked.contains ·.1)
      tracked := [] })

/-- Whether an entry has expired. -/
def isExpired (now : Int) (entry : String × StoredEntry) : Bool := entry.2.expiresAt ≤ now

/-- Removes all expired entries; the number is how many there were. -/
def purgeExpired (store : Store) (now : Int) : Nat × Store :=
  let expired := store.entries.filter (isExpired now)
  let keys := expired.map (·.1)
  (expired.length,
    { store with
      entries := store.entries.filter (!isExpired now ·)
      tracked := store.tracked.filter (!keys.contains ·) })

/-- Counts of a store. -/
structure Counts where
  total : Nat
  live : Nat
  expired : Nat
  tracked : Nat
deriving DecidableEq, Repr

/-- Counts the entries of a store. -/
def counts (store : Store) (now : Int) : Counts :=
  let expired := (store.entries.filter (isExpired now)).length
  ⟨store.entries.length, store.entries.length - expired, expired, store.tracked.length⟩

/-- Replaces the text stored under a key, if there is an entry. -/
def overwrite (store : Store) (key payload : String) : Store :=
  { store with
    entries := store.entries.map fun (known, entry) =>
      (known, if known == key then { entry with payload := payload } else entry) }

/-- Replaces the text of every entry. -/
def overwriteAll (store : Store) (payload : String) : Store :=
  { store with entries := store.entries.map fun (key, entry) => (key, { entry with payload := payload }) }

/-- The definitions of the tables that hold a store. -/
def definitions : String :=
  "CREATE TABLE usage_cache (\n                cache_key TEXT PRIMARY KEY,\n" ++
  "                payload TEXT NOT NULL,\n                expires_at REAL NOT NULL\n            )" ++
  "CREATE TABLE tracked_keys (\n                cache_key TEXT PRIMARY KEY\n            )"

/-- The text in the file of a store, as far as other programs can tell: the signature of the format,
the definitions of the tables, and all that is stored. -/
def fileText (store : Store) : String :=
  "SQLite format 3" ++ String.ofList [Char.ofNat 0] ++ definitions ++
    Text.concat (store.entries.map fun (key, entry) => key ++ entry.payload) ++
    Text.concat store.tracked

/-- Stops tracking a key and keeps its entry. -/
def untrack (store : Store) (key : String) : Store :=
  { store with tracked := store.tracked.filter (· != key) }

end Store

end ClassAtlas
