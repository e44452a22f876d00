import ClassAtlas.Cache.Store
import ClassAtlas.Proofs.Entries
import ClassAtlas.Proofs.Json.RoundTrip
import Mathlib.Data.List.Induction
import Mathlib.Data.List.Nodup

/-!
A store is a map with expiry.

What a store holds follows from its history alone: a value stands under a key from the put that stored
it until the key is put again or removed. Each event of a history has its own time, and times may run
in either direction. The time from which a value no longer counts is a moment as `Moment.after` counts
it, with 53 binary digits: a lifetime that needs more of them is not kept exactly.
-/

namespace ClassAtlas.Store

/-- What is done to a store. -/
inductive Action where
  | put (key : String) (value : Json) (isProper : value.IsProper) (lifetime : Option Int)
  | get (key : String)
  | forget (key : String)
  | invalidateAll
  | purgeExpired

/-- An action at a time. -/
structure Event where
  now : Int
  action : Action

/-- The store after an event. A value that cannot be stored leaves it as it is. -/
def perform (store : Store) (event : Event) : Store :=
  match event.action with
  | .put key value _ lifetime => (store.put event.now key value lifetime).toOption.getD store
  | .get key => (store.get event.now key).2
  | .forget key => store.forget key
  | .invalidateAll => store.invalidateAll.2
  | .purgeExpired => (store.purgeExpired event.now).2

/-- The store after a history that starts with an empty one. -/
def ofHistory (lifetime : Int) (history : List Event) : Store :=
  history.foldl perform (.empty lifetime)

/-- Whether an event stores a value under a key, to count until a time. -/
def Event.Puts (lifetime : Int) (event : Event) (key : String) (value : Json) (expiry : Int) : Prop :=
  ∃ isProper given, event.action = .put key value isProper given ∧ value.IsWritable ∧
    Moment.after event.now (given.getD lifetime) = .ok expiry

/-- Whether an event removes a key whose value counts until a time. -/
def Event.Removes (event : Event) (key : String) (expiry : Int) : Prop :=
  match event.action with
  | .put .. => False
  | .get known => known = key ∧ expiry ≤ event.now
  | .forget known => known = key
  | .invalidateAll => True
  | .purgeExpired => expiry ≤ event.now

/-- Whether a value was put under a key last, to count until a time, and not removed since. -/
def Holds (lifetime : Int) (history : List Event) (key : String) (value : Json) (expiry : Int) : Prop :=
  ∃ before event later, history = before ++ event :: later ∧ event.Puts lifetime key value expiry ∧
    ∀ next ∈ later, (∀ value expiry, ¬ next.Puts lifetime key value expiry) ∧ ¬ next.Removes key expiry

/-- What a store tells of its history. -/
structure IsExpiringMap (lifetime : Int) (history : List Event) (store : Store) : Prop where
  /-- A key gives the value that was put last, unless it was removed or no longer counts; null gives
  none. -/
  answer : ∀ now key, ∃ answer, (store.get now key).1 = .ok answer ∧
    ∀ value, answer = some value ↔
      value ≠ .null ∧ ∃ expiry, Holds lifetime history key value expiry ∧ now < expiry
  held : ∀ key, key ∈ store.entries.map (·.1) ↔ ∃ value expiry, Holds lifetime history key value expiry
  tracked : ∀ key, key ∈ store.trackedKeys ↔ key ∈ store.entries.map (·.1)
  sorted : store.trackedKeys.Pairwise (· < ·)
  invalidated : store.invalidateAll = (store.trackedKeys.length, .empty lifetime)
  purged : ∀ now, (store.purgeExpired now).1 = (store.counts now).expired
  /-- However a history goes on, a purge changes nothing that is asked later. -/
  unaffected : ∀ now more later key, now ≤ later →
    ((ofHistory lifetime (history ++ ⟨now, .purgeExpired⟩ :: more)).get later key).1 =
      ((ofHistory lifetime (history ++ more)).get later key).1

section Histories

variable {lifetime : Int} {history : List Event} {event : Event} {key : String} {value : Json}
  {expiry : Int}

theorem ofHistory_append (lifetime : Int) (history : List Event) (event : Event) :
    ofHistory lifetime (history ++ [event]) = (ofHistory lifetime history).perform event := by
  simp [ofHistory]

/-- What holds after one more event was put by it, or held before and was left alone. -/
theorem holds_append : Holds lifetime (history ++ [event]) key value expiry ↔
    event.Puts lifetime key value expiry ∨ Holds lifetime history key value expiry ∧
      (∀ value expiry, ¬ event.Puts lifetime key value expiry) ∧ ¬ event.Removes key expiry := by
  constructor
  · rintro ⟨before, put, later, split, puts, alone⟩
    rcases List.eq_nil_or_concat later with rfl | ⟨later, last, rfl⟩
    · obtain ⟨-, same⟩ := List.append_inj' split rfl
      cases same
      exact .inl puts
    · rw [List.concat_eq_append, ← List.cons_append, ← List.append_assoc] at split
      obtain ⟨rfl, same⟩ := List.append_inj' split rfl
      cases same
      rw [List.concat_eq_append] at alone
      refine .inr ⟨⟨before, put, later, rfl, puts, ?_⟩, alone event (by simp)⟩
      exact fun next member => alone next (List.mem_append_left _ member)
  · rintro (puts | ⟨⟨before, put, later, rfl, puts, alone⟩, last⟩)
    · exact ⟨history, event, [], rfl, puts, by simp⟩
    · refine ⟨before, put, later ++ [event], by simp, puts, fun next member => ?_⟩
      rcases List.mem_append.mp member with earlier | isLast
      · exact alone next earlier
      · rw [List.mem_singleton.mp isLast]
        exact last

theorem Event.Puts.of_action (puts : event.Puts lifetime key value expiry) {putKey : String}
    {putValue : Json} {isProper : putValue.IsProper} {given : Option Int}
    (isPut : event.action = .put putKey putValue isProper given) :
    key = putKey ∧ value = putValue ∧ putValue.IsWritable ∧
      Moment.after event.now (given.getD lifetime) = .ok expiry := by
  obtain ⟨_, _, samePut, writable, counted⟩ := puts
  rw [isPut] at samePut
  cases samePut
  exact ⟨rfl, rfl, writable, counted⟩

/-- An event puts at most one value. -/
theorem Event.Puts.unique (puts : event.Puts lifetime key value expiry) {otherKey : String}
    {other : Json} {otherExpiry : Int} (otherPuts : event.Puts lifetime otherKey other otherExpiry) :
    otherKey = key ∧ other = value ∧ otherExpiry = expiry := by
  obtain ⟨_, _, isPut, _, counted⟩ := puts
  obtain ⟨sameKey, sameValue, -, otherCounted⟩ := otherPuts.of_action isPut
  rw [counted] at otherCounted
  cases otherCounted
  exact ⟨sameKey, sameValue, rfl⟩

theorem Event.not_puts
    (notPut : ∀ key value isProper given, event.action ≠ .put key value isProper given)
    (key : String) (value : Json) (expiry : Int) : ¬ event.Puts lifetime key value expiry := by
  rintro ⟨_, _, isPut, -⟩
  exact notPut _ _ _ _ isPut

theorem Event.not_removes_of_put {isProper : value.IsProper} {given : Option Int}
    (isPut : event.action = .put key value isProper given) (known : String) (expiry : Int) :
    ¬ event.Removes known expiry := by
  rw [Event.Removes, isPut]
  exact not_false

theorem Holds.readsBack (holds : Holds lifetime history key value expiry) :
    Json.ReadsBack Json.maxDepth value := by
  obtain ⟨-, event, -, -, ⟨isProper, given, -, writable, -⟩, -⟩ := holds
  exact isProper.readsBack writable.short writable.shallow

/-- A purge takes nothing that counts at its time or later. -/
theorem holds_purge {now later : Int} (notBefore : now ≤ later) (counts : later < expiry)
    (more : List Event) :
    Holds lifetime (history ++ ⟨now, .purgeExpired⟩ :: more) key value expiry ↔
      Holds lifetime (history ++ more) key value expiry := by
  induction more using List.reverseRecOn generalizing value with
  | nil =>
    have noPut : ∀ value expiry, ¬ Event.Puts lifetime ⟨now, .purgeExpired⟩ key value expiry := by
      rintro value expiry ⟨isProper, given, isPut, -⟩
      cases isPut
    have stays : ¬ Event.Removes ⟨now, .purgeExpired⟩ key expiry := by
      show ¬ expiry ≤ now
      omega
    rw [holds_append, List.append_nil]
    exact ⟨fun holds => (holds.resolve_left (noPut _ _)).1, fun holds => .inr ⟨holds, noPut, stays⟩⟩
  | append_singleton more last inductionHypothesis =>
    rw [← List.cons_append, ← List.append_assoc, ← List.append_assoc, holds_append, holds_append,
      inductionHypothesis]

end Histories

/-- The answer for a stored value: null counts as none. -/
def answerFor : Json → Option Json
  | .null => none
  | value => some value

theorem answerFor_eq_some {value given : Json} :
    answerFor value = some given ↔ given ≠ .null ∧ value = given := by
  by_cases null : value = .null
  · subst null
    simp only [answerFor, reduceCtorEq, false_iff]
    rintro ⟨notNull, same⟩
    exact notNull same.symm
  · have answered : answerFor value = some value := by
      cases value with
      | null => exact absurd rfl null
      | _ => rfl
    rw [answered, Option.some.injEq]
    constructor
    · rintro rfl
      exact ⟨null, rfl⟩
    · rintro ⟨-, same⟩
      exact same

/-- Whether the entries of a store are what holds after a history. -/
structure Reflects (lifetime : Int) (history : List Event) (store : Store) : Prop where
  sameLifetime : store.lifetime = lifetime
  distinct : (store.entries.map (·.1)).Nodup
  distinctTracked : store.tracked.Nodup
  tracked : ∀ key, key ∈ store.tracked ↔ key ∈ store.entries.map (·.1)
  held : ∀ key entry, (key, entry) ∈ store.entries ↔
    ∃ value, entry.payload = value.renderAscii ∧ Holds lifetime history key value entry.expiresAt

namespace Reflects

variable {lifetime : Int} {history : List Event} {store : Store} {event : Event}

theorem empty (lifetime : Int) : (Store.empty lifetime).Reflects lifetime [] where
  sameLifetime := rfl
  distinct := List.nodup_nil
  distinctTracked := List.nodup_nil
  tracked _ := Iff.rfl
  held key entry := by
    constructor
    · intro member
      cases member
    · rintro ⟨value, -, before, put, later, split, -⟩
      simp at split

theorem eq_of_mem (reflects : store.Reflects lifetime history) {key : String}
    {first second : StoredEntry} (firstHeld : (key, first) ∈ store.entries)
    (secondHeld : (key, second) ∈ store.entries) : first = second := by
  have same := List.inj_on_of_nodup_map reflects.distinct firstHeld secondHeld rfl
  exact congrArg Prod.snd same

/-- A store that loses what an event removes reflects the event. -/
theorem remove (reflects : store.Reflects lifetime history) {later : Store}
    (kept : later.lifetime = store.lifetime)
    (noPut : ∀ key value expiry, ¬ event.Puts lifetime key value expiry)
    (fewer : later.entries.Sublist store.entries) (fewerTracked : later.tracked.Sublist store.tracked)
    (left : ∀ key entry, (key, entry) ∈ later.entries ↔
      (key, entry) ∈ store.entries ∧ ¬ event.Removes key entry.expiresAt)
    (tracked : ∀ key, key ∈ later.tracked ↔ key ∈ later.entries.map (·.1)) :
    later.Reflects lifetime (history ++ [event]) where
  sameLifetime := kept.trans reflects.sameLifetime
  distinct := reflects.distinct.sublist (fewer.map _)
  distinctTracked := reflects.distinctTracked.sublist fewerTracked
  tracked := tracked
  held key entry := by
    simp only [left, reflects.held, holds_append, noPut, false_or, not_false_eq_true, implies_true,
      true_and]
    constructor
    · rintro ⟨⟨value, payload, holds⟩, stays⟩
      exact ⟨value, payload, holds, stays⟩
    · rintro ⟨value, payload, holds, stays⟩
      exact ⟨⟨value, payload, holds⟩, stays⟩

theorem remain (reflects : store.Reflects lifetime history)
    (noPut : ∀ key value expiry, ¬ event.Puts lifetime key value expiry)
    (noRemoval : ∀ key entry, (key, entry) ∈ store.entries → ¬ event.Removes key entry.expiresAt) :
    store.Reflects lifetime (history ++ [event]) :=
  reflects.remove rfl noPut (.refl _) (.refl _)
    (fun key entry => ⟨fun held => ⟨held, noRemoval key entry held⟩, And.left⟩) reflects.tracked

/-- A store without a key reflects an event that removes just this key. -/
theorem forget (reflects : store.Reflects lifetime history) {key : String}
    (noPut : ∀ key value expiry, ¬ event.Puts lifetime key value expiry)
    (removes : ∀ known entry, (known, entry) ∈ store.entries →
      (event.Removes known entry.expiresAt ↔ known = key)) :
    (store.forget key).Reflects lifetime (history ++ [event]) := by
  refine reflects.remove rfl noPut List.filter_sublist List.filter_sublist ?_ ?_
  · intro known entry
    simp only [Store.forget, List.mem_filter, bne_iff_ne]
    exact and_congr_right fun held => not_congr (removes known entry held).symm
  · intro known
    simp only [Store.forget, List.mem_filter, bne_iff_ne, reflects.tracked, List.mem_map]
    constructor
    · rintro ⟨⟨entry, held, rfl⟩, apart⟩
      exact ⟨entry, ⟨held, apart⟩, rfl⟩
    · rintro ⟨entry, ⟨held, apart⟩, rfl⟩
      exact ⟨⟨entry, held, rfl⟩, apart⟩

/-- Removing all tracked keys leaves a store without entries. -/
theorem invalidateAll_eq (reflects : store.Reflects lifetime history) :
    store.invalidateAll = (store.tracked.length, .empty lifetime) := by
  have none : store.entries.filter (!store.tracked.contains ·.1) = [] := by
    refine List.filter_eq_nil_iff.mpr fun entry held => ?_
    have isTracked := (reflects.tracked entry.1).mpr (List.mem_map.mpr ⟨entry, held, rfl⟩)
    simpa using isTracked
  rw [Store.invalidateAll, none, ← reflects.sameLifetime]
  rfl

theorem invalidateAll (reflects : store.Reflects lifetime history)
    (noPut : ∀ key value expiry, ¬ event.Puts lifetime key value expiry)
    (removes : ∀ key expiry, event.Removes key expiry) :
    store.invalidateAll.2.Reflects lifetime (history ++ [event]) := by
  rw [reflects.invalidateAll_eq]
  refine reflects.remove reflects.sameLifetime.symm noPut (List.nil_sublist _) (List.nil_sublist _) ?_
    fun _ => Iff.rfl
  intro key entry
  simp [Store.empty, removes]

theorem purgeExpired (reflects : store.Reflects lifetime history)
    (noPut : ∀ key value expiry, ¬ event.Puts lifetime key value expiry)
    (removes : ∀ key expiry, event.Removes key expiry ↔ expiry ≤ event.now) :
    (store.purgeExpired event.now).2.Reflects lifetime (history ++ [event]) := by
  refine reflects.remove rfl noPut List.filter_sublist List.filter_sublist ?_ ?_
  · intro key entry
    simp [Store.purgeExpired, isExpired, removes]
  · intro key
    have lost : (((store.entries.filter (isExpired event.now)).map (·.1)).contains key) = true ↔
        ∃ entry, (key, entry) ∈ store.entries ∧ entry.expiresAt ≤ event.now := by
      simp [isExpired]
    rw [Store.purgeExpired, List.mem_filter, Bool.not_eq_true', ← Bool.not_eq_true, lost,
      reflects.tracked]
    simp only [List.mem_map, List.mem_filter, isExpired, Bool.not_eq_true', decide_eq_false_iff_not]
    constructor
    · rintro ⟨⟨⟨key, entry⟩, held, rfl⟩, notExpired⟩
      exact ⟨(key, entry), ⟨held, fun expired => notExpired ⟨entry, held, expired⟩⟩, rfl⟩
    · rintro ⟨⟨key, entry⟩, ⟨held, live⟩, rfl⟩
      refine ⟨⟨_, held, rfl⟩, ?_⟩
      rintro ⟨other, otherHeld, expired⟩
      rw [reflects.eq_of_mem otherHeld held] at expired
      exact live expired

/-- What a store gives for a key, and what is left of it. -/
theorem get_cases (reflects : store.Reflects lifetime history) (now : Int) (key : String) :
    (∀ entry, (key, entry) ∉ store.entries) ∧ store.get now key = (.ok none, store) ∨
    (∃ entry, (key, entry) ∈ store.entries ∧ entry.expiresAt ≤ now ∧
      store.get now key = (.ok none, store.forget key)) ∨
    ∃ entry value, (key, entry) ∈ store.entries ∧ now < entry.expiresAt ∧
      Holds lifetime history key value entry.expiresAt ∧ entry.payload = value.renderAscii ∧
      store.get now key = (.ok (answerFor value), store) := by
  rw [Store.get]
  cases found : store.entries.lookup key with
  | none =>
    refine .inl ⟨fun entry held => ?_, rfl⟩
    rw [(Entries.lookup_eq_some_iff_mem reflects.distinct).mpr held] at found
    cases found
  | some entry =>
    have held := (Entries.lookup_eq_some_iff_mem reflects.distinct).mp found
    by_cases expired : entry.expiresAt ≤ now
    · exact .inr (.inl ⟨entry, held, expired, by simp [expired]⟩)
    · obtain ⟨value, payload, holds⟩ := (reflects.held key entry).mp held
      refine .inr (.inr ⟨entry, value, held, by omega, holds, payload, ?_⟩)
      simp only [expired, if_false, payload, Json.parse_renderAscii holds.readsBack]
      cases value <;> rfl

theorem get (reflects : store.Reflects lifetime history) {key : String}
    (noPut : ∀ key value expiry, ¬ event.Puts lifetime key value expiry)
    (removes : ∀ known expiry, event.Removes known expiry ↔ key = known ∧ expiry ≤ event.now) :
    (store.get event.now key).2.Reflects lifetime (history ++ [event]) := by
  obtain ⟨absent, got⟩ | ⟨entry, held, expired, got⟩ | ⟨entry, value, held, live, -, -, got⟩ :=
    reflects.get_cases event.now key
  · rw [got]
    refine reflects.remain noPut fun known entry known_held removed => ?_
    obtain ⟨rfl, -⟩ := (removes known entry.expiresAt).mp removed
    exact absent entry known_held
  · rw [got]
    refine reflects.forget noPut fun known other otherHeld => ?_
    rw [removes]
    constructor
    · rintro ⟨rfl, -⟩
      rfl
    · rintro rfl
      rw [reflects.eq_of_mem otherHeld held]
      exact ⟨rfl, expired⟩
  · rw [got]
    refine reflects.remain noPut fun known other otherHeld removed => ?_
    obtain ⟨rfl, expired⟩ := (removes known other.expiresAt).mp removed
    rw [reflects.eq_of_mem otherHeld held] at expired
    omega

/-- A value that can be written is stored if its lifetime can be counted. -/
theorem put_eq_map (store : Store) (now : Int) (key : String) {value : Json}
    (writable : value.IsWritable) (given : Option Int) :
    store.put now key value given =
      (Moment.after now (given.getD store.lifetime)).map fun expiresAt => { store with
        entries := store.entries.filter (·.1 != key) ++ [(key, ⟨value.renderAscii, expiresAt⟩)]
        tracked := if store.tracked.contains key then store.tracked else store.tracked ++ [key] } := by
  simp only [Store.put, writable.short, Nat.not_lt.mpr writable.shallow]
  cases Moment.after now (given.getD store.lifetime) <;> rfl

theorem exists_fault_of_not_isWritable (store : Store) (now : Int) (key : String) {value : Json}
    (notWritable : ¬ value.IsWritable) (given : Option Int) :
    ∃ fault, store.put now key value given = .error fault := by
  by_cases long : value.hasLongInteger = true
  · exact ⟨.badValue longNumeralMessage, by simp only [Store.put, long]; rfl⟩
  · have deep : Json.maxDepth < value.nesting := by
      refine Nat.lt_of_not_le fun shallow => notWritable ⟨?_, shallow⟩
      simpa using long
    exact ⟨.tooNested, by simp only [Store.put, long, deep]; rfl⟩

/-- Storing a value under a key replaces what stood there. -/
theorem replace (reflects : store.Reflects lifetime history) {key : String} {value : Json}
    {expiry : Int} (puts : event.Puts lifetime key value expiry) :
    Reflects lifetime (history ++ [event]) { store with
      entries := store.entries.filter (·.1 != key) ++ [(key, ⟨value.renderAscii, expiry⟩)]
      tracked := if store.tracked.contains key then store.tracked else store.tracked ++ [key] } where
  sameLifetime := reflects.sameLifetime
  distinct := by
    rw [List.map_append]
    refine (reflects.distinct.sublist (List.filter_sublist.map _)).append (List.nodup_singleton key) ?_
    simp
  distinctTracked := by
    dsimp only
    split
    case isTrue => exact reflects.distinctTracked
    case isFalse new =>
      refine reflects.distinctTracked.append (List.nodup_singleton key) ?_
      simpa using new
  tracked known := by
    have isTracked : known ∈ (if store.tracked.contains key then store.tracked
        else store.tracked ++ [key]) ↔ known ∈ store.tracked ∨ known = key := by
      split
      case isTrue there =>
        refine ⟨.inl, fun either => either.elim id ?_⟩
        rintro rfl
        simpa using there
      case isFalse => simp
    rw [isTracked, reflects.tracked]
    by_cases same : known = key
    · simp [same]
    · simp [same]
  held known entry := by
    obtain ⟨isProper, given, isPut, -⟩ := id puts
    have stays := Event.not_removes_of_put isPut
    rw [List.mem_append, List.mem_filter, List.mem_singleton, bne_iff_ne, Prod.mk.injEq]
    by_cases same : known = key
    · subst same
      constructor
      · rintro (⟨-, apart⟩ | ⟨-, rfl⟩)
        · exact absurd rfl apart
        · exact ⟨value, rfl, holds_append.mpr (.inl puts)⟩
      · rintro ⟨other, payload, holds⟩
        rcases holds_append.mp holds with otherPuts | ⟨-, noPut, -⟩
        · obtain ⟨-, rfl, same⟩ := puts.unique otherPuts
          obtain ⟨text, expiresAt⟩ := entry
          simp only at payload same
          exact .inr ⟨rfl, by rw [payload, same]⟩
        · exact absurd puts (noPut value expiry)
    · have noPut : ∀ value expiry, ¬ event.Puts lifetime known value expiry :=
        fun value expiry otherPuts => same (puts.unique otherPuts).1
      simp only [same, false_and, or_false, reflects.held, holds_append, noPut, stays, false_or,
        not_false_eq_true, implies_true, and_true, ne_eq]

theorem put (reflects : store.Reflects lifetime history) {key : String} {value : Json}
    {isProper : value.IsProper} {given : Option Int}
    (isPut : event.action = .put key value isProper given) :
    (store.perform event).Reflects lifetime (history ++ [event]) := by
  obtain rfl := reflects.sameLifetime
  have stays : ∀ key entry, (key, entry) ∈ store.entries → ¬ event.Removes key entry.expiresAt :=
    fun known entry _ => Event.not_removes_of_put isPut known entry.expiresAt
  rw [perform, isPut]
  by_cases writable : value.IsWritable
  case neg =>
    obtain ⟨fault, refused⟩ := exists_fault_of_not_isWritable store event.now key writable given
    simp only [refused]
    exact reflects.remain (fun _ _ _ puts => writable (puts.of_action isPut).2.2.1) stays
  case pos =>
    simp only [put_eq_map store event.now key writable given]
    cases counted : Moment.after event.now (given.getD store.lifetime) with
    | error fault =>
      refine reflects.remain (fun _ _ _ puts => ?_) stays
      have otherCounted := (puts.of_action isPut).2.2.2
      rw [counted] at otherCounted
      cases otherCounted
    | ok expiry => exact reflects.replace ⟨isProper, given, isPut, writable, counted⟩

end Reflects

/-- What a store holds after a history. -/
theorem reflects_ofHistory (lifetime : Int) (history : List Event) :
    (ofHistory lifetime history).Reflects lifetime history := by
  induction history using List.reverseRecOn with
  | nil => exact .empty lifetime
  | append_singleton history event reflects =>
    rw [ofHistory_append]
    obtain ⟨now, action⟩ := event
    cases action with
    | put key value isProper given => exact reflects.put rfl
    | get key => exact reflects.get (Event.not_puts nofun) fun _ _ => Iff.rfl
    | forget key => exact reflects.forget (Event.not_puts nofun) fun _ _ _ => eq_comm
    | invalidateAll => exact reflects.invalidateAll (Event.not_puts nofun) fun _ _ => trivial
    | purgeExpired => exact reflects.purgeExpired (Event.not_puts nofun) fun _ _ => Iff.rfl

section Answers

variable {lifetime : Int} {history : List Event} {store : Store}

/-- At most one value holds under a key. -/
theorem Reflects.unique (reflects : store.Reflects lifetime history) {key : String}
    {first second : Json} {firstExpiry secondExpiry : Int}
    (firstHolds : Holds lifetime history key first firstExpiry)
    (secondHolds : Holds lifetime history key second secondExpiry) :
    first = second ∧ firstExpiry = secondExpiry := by
  have firstHeld := (reflects.held key ⟨first.renderAscii, firstExpiry⟩).mpr ⟨first, rfl, firstHolds⟩
  have secondHeld :=
    (reflects.held key ⟨second.renderAscii, secondExpiry⟩).mpr ⟨second, rfl, secondHolds⟩
  obtain ⟨payload, expiry⟩ := StoredEntry.mk.inj (reflects.eq_of_mem firstHeld secondHeld)
  refine ⟨?_, expiry⟩
  have read := congrArg Json.parse payload
  rw [Json.parse_renderAscii firstHolds.readsBack, Json.parse_renderAscii secondHolds.readsBack] at read
  exact Except.ok.inj read

theorem Reflects.answer (reflects : store.Reflects lifetime history) (now : Int) (key : String) :
    ∃ answer, (store.get now key).1 = .ok answer ∧ ∀ value, answer = some value ↔
      value ≠ .null ∧ ∃ expiry, Holds lifetime history key value expiry ∧ now < expiry := by
  have held : ∀ value expiry, Holds lifetime history key value expiry →
      (key, ⟨value.renderAscii, expiry⟩) ∈ store.entries :=
    fun value expiry holds => (reflects.held key _).mpr ⟨value, rfl, holds⟩
  obtain ⟨absent, got⟩ | ⟨entry, there, expired, got⟩ | ⟨entry, value, -, live, holds, -, got⟩ :=
    reflects.get_cases now key
  · refine ⟨none, by rw [got], fun given => ⟨nofun, ?_⟩⟩
    rintro ⟨-, expiry, holds, -⟩
    exact absurd (held given expiry holds) (absent _)
  · refine ⟨none, by rw [got], fun given => ⟨nofun, ?_⟩⟩
    rintro ⟨-, expiry, holds, live⟩
    rw [reflects.eq_of_mem there (held given expiry holds)] at expired
    exact absurd live (Int.not_lt.mpr expired)
  · refine ⟨answerFor value, by rw [got], fun given => ?_⟩
    rw [answerFor_eq_some]
    refine and_congr_right fun _ => ⟨?_, ?_⟩
    · rintro rfl
      exact ⟨entry.expiresAt, holds, live⟩
    · rintro ⟨expiry, otherHolds, -⟩
      exact (reflects.unique holds otherHolds).1

theorem Reflects.exists_holds (reflects : store.Reflects lifetime history) (key : String) :
    key ∈ store.entries.map (·.1) ↔ ∃ value expiry, Holds lifetime history key value expiry := by
  rw [List.mem_map]
  constructor
  · rintro ⟨⟨key, entry⟩, there, rfl⟩
    obtain ⟨value, -, holds⟩ := (reflects.held key entry).mp there
    exact ⟨value, entry.expiresAt, holds⟩
  · rintro ⟨value, expiry, holds⟩
    exact ⟨_, (reflects.held key ⟨value.renderAscii, expiry⟩).mpr ⟨value, rfl, holds⟩, rfl⟩

theorem trackedKeys_perm (store : Store) : store.trackedKeys.Perm store.tracked :=
  List.mergeSort_perm store.tracked _

theorem Reflects.trackedKeys_sorted (reflects : store.Reflects lifetime history) :
    store.trackedKeys.Pairwise (· < ·) := by
  have ordered : store.trackedKeys.Pairwise fun first second => decide (first ≤ second) = true := by
    refine List.pairwise_mergeSort ?_ ?_ store.tracked
    · intro first second third
      simpa using String.le_trans
    · intro first second
      simpa using String.le_total first second
  have distinct : store.trackedKeys.Nodup :=
    (trackedKeys_perm store).nodup_iff.mpr reflects.distinctTracked
  refine ordered.imp₂ (fun first second before apart => ?_) distinct
  exact Std.lt_of_le_of_ne (by simpa using before) apart

/-- What is asked after a purge at the same time or later does not depend on the purge. -/
theorem get_after_purge (lifetime : Int) (history more : List Event) {now later : Int}
    (notBefore : now ≤ later) (key : String) :
    ((ofHistory lifetime (history ++ ⟨now, .purgeExpired⟩ :: more)).get later key).1 =
      ((ofHistory lifetime (history ++ more)).get later key).1 := by
  obtain ⟨purged, gotPurged, purgedIff⟩ :=
    (reflects_ofHistory lifetime (history ++ ⟨now, .purgeExpired⟩ :: more)).answer later key
  obtain ⟨plain, gotPlain, plainIff⟩ :=
    (reflects_ofHistory lifetime (history ++ more)).answer later key
  rw [gotPurged, gotPlain]
  congr 1
  ext value
  rw [purgedIff, plainIff]
  refine and_congr_right fun _ => exists_congr fun expiry => and_congr_left fun live => ?_
  exact holds_purge notBefore live more

end Answers

theorem isExpiringMap_ofHistory (lifetime : Int) (history : List Event) :
    IsExpiringMap lifetime history (ofHistory lifetime history) where
  answer := (reflects_ofHistory lifetime history).answer
  held := (reflects_ofHistory lifetime history).exists_holds
  tracked key :=
    (trackedKeys_perm _).mem_iff.trans ((reflects_ofHistory lifetime history).tracked key)
  sorted := (reflects_ofHistory lifetime history).trackedKeys_sorted
  invalidated := by
    rw [(reflects_ofHistory lifetime history).invalidateAll_eq, (trackedKeys_perm _).length_eq]
  purged _ := rfl
  unaffected _ more _ key notBefore := get_after_purge lifetime history more notBefore key

/-- Whatever its history, a store is a map with expiry, in which values count for their lifetimes
exactly as long as no time needs more than 53 binary digits. -/
theorem counts_until_expiry (lifetime : Int) (history : List Event) :
    IsExpiringMap lifetime history (ofHistory lifetime history) ∧
      ∀ now seconds : Int, Moment.digits seconds.natAbs ≤ Moment.precision →
        Moment.digits (now + seconds).natAbs ≤ Moment.precision →
        Moment.after now seconds = .ok (now + seconds) :=
  ⟨isExpiringMap_ofHistory lifetime history, fun _ _ fits sumFits => Moment.after_eq fits sumFits⟩

/-- A value that is put for ten seconds is given nine seconds later, although a purge before it had a later
time and another one came in between. -/
theorem counts_until_expiry_sample :
    ((ofHistory 10 [⟨7, .purgeExpired⟩, ⟨0, .put "a" (.str "x") (.str "x") none⟩,
      ⟨5, .purgeExpired⟩]).get 9 "a").1 = .ok (some (.str "x")) := by
  obtain ⟨map, exact⟩ := counts_until_expiry 10 [⟨7, .purgeExpired⟩,
    ⟨0, .put "a" (.str "x") (.str "x") none⟩, ⟨5, .purgeExpired⟩]
  have puts : Event.Puts 10 ⟨0, .put "a" (.str "x") (.str "x") none⟩ "a" (.str "x") 10 :=
    ⟨.str "x", none, rfl, ⟨rfl, by decide⟩, exact 0 10 (by decide) (by decide)⟩
  obtain ⟨answer, got, told⟩ := map.answer 9 "a"
  rw [got, (told (.str "x")).mpr ⟨nofun, 10,
    ⟨[⟨7, .purgeExpired⟩], _, [⟨5, .purgeExpired⟩], rfl, puts, ?_⟩, by decide⟩]
  intro next member
  rw [List.mem_singleton.mp member]
  exact ⟨Event.not_puts (by rintro _ _ _ _ ⟨⟩) "a", by simp [Event.Removes]⟩

/-- A moment that needs 54 binary digits is rounded: here a value no longer counts a second too
early. -/
theorem expires_before_lifetime :
    let store := ofHistory 86400 [⟨1000000, .put "k" (.int 1) (.int 1) (some 9007199253740993)⟩]
    store.trackedKeys = ["k"] ∧ (9007199254740992 : Int) < 1000000 + 9007199253740993 ∧
      (store.get 9007199254740992 "k").1 = .ok none := by
  refine ⟨?_, by decide, rfl⟩
  exact List.mergeSort_singleton "k"

end ClassAtlas.Store
