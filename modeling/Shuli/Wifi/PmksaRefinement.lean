import Mathlib.Data.Finset.Max
import Mathlib.Data.List.Perm.Basic
import Shuli.Runs
import Shuli.Wifi.Network

/-!
The PMKSA cache as a bounded map. Beside the entries of the cache stands, for every key, the entry that was
inserted last, unless it has been invalidated, removed with its network or evicted since. Under a clock that
never goes back the two give the same answers: what the cache has dropped on its own account had expired.
-/

namespace Shuli.Wifi

abbrev PmksaKey := String × MacAddr × SecurityType

def PmksaEntry.key (self : PmksaEntry) : PmksaKey := (self.ssid, self.bssid, self.security)

variable {key : PmksaKey}

@[simp] theorem PmksaEntry.isFor_iff {entry : PmksaEntry} :
    entry.isFor key.1 key.2.1 key.2.2 = true ↔ entry.key = key := by
  obtain ⟨ssid, bssid, security⟩ := key
  simp only [isFor, PmksaEntry.key, Bool.and_eq_true, beq_iff_eq, and_assoc, Prod.mk.injEq]

namespace PmksaCache

/-- `lookup` with its two readings of the clock: for the expiry, and then for the threshold. -/
def lookupBetween (self : PmksaCache) (key : PmksaKey) (now later : Instant) : Option PmksaEntry :=
  (self.removeExpired now).find? fun entry =>
    entry.isFor key.1 key.2.1 key.2.2 && !entry.pastReauthThreshold later

def lookupPastReauthBetween (self : PmksaCache) (key : PmksaKey) (now later : Instant) : Option PmksaEntry :=
  (self.removeExpired now).find? fun entry =>
    entry.isFor key.1 key.2.1 key.2.2 && entry.pastReauthThreshold later

example (self : PmksaCache) (key : PmksaKey) (now : Instant) :
    self.lookupBetween key now now = self.lookup key.1 key.2.1 key.2.2 now := rfl

end PmksaCache

inductive CacheCall
  | insert (entry : PmksaEntry)
  | lookup (key : PmksaKey)
  | lookupPastReauth (key : PmksaKey)
  | contains (key : PmksaKey)
  | invalidate (key : PmksaKey)
  | removeSsid (ssid : String)
  | removeExpired

def CacheCall.effect (cache : PmksaCache) (now : Instant) : CacheCall → PmksaCache
  | insert entry => cache.insert entry now
  | lookup _ | lookupPastReauth _ | contains _ | removeExpired => cache.removeExpired now
  | invalidate key => cache.invalidate key.1 key.2.1 key.2.2
  | removeSsid ssid => (cache.removeSsid ssid).1

/-- A call with the first and the last reading of the clock that it makes. -/
structure TimedCall where
  call : CacheCall
  now : Instant
  later : Instant

/-- A live entry of the key was there, and none is there any more. -/
def Dropped (before after : PmksaCache) (now : Instant) (key : PmksaKey) : Prop :=
  (∃ entry ∈ before, entry.key = key ∧ now < entry.expires) ∧ ∀ entry ∈ after, entry.key ≠ key

instance (before after : PmksaCache) (now : Instant) (key : PmksaKey) : Decidable (Dropped before after now key) :=
  inferInstanceAs (Decidable ((∃ _ ∈ _, _) ∧ _))

/-- The cache, the entry that stands for each key and the last reading of the clock. -/
structure CacheRun where
  cache : PmksaCache
  standing : PmksaKey → Option PmksaEntry
  clock : Instant

namespace CacheRun

def fresh : CacheRun := ⟨[], fun _ => none, 0⟩

/-- The entries that stand after a call: an insertion replaces the one of its key and may evict another. -/
def stand (run : CacheRun) (now : Instant) : CacheCall → PmksaKey → Option PmksaEntry
  | .insert entry, key =>
    if key = entry.key then some entry
    else if Dropped run.cache (run.cache.insert entry now) now key then none
    else run.standing key
  | .invalidate gone, key => if key = gone then none else run.standing key
  | .removeSsid ssid, key => if key.1 = ssid then none else run.standing key
  | .lookup _, key | .lookupPastReauth _, key | .contains _, key | .removeExpired, key => run.standing key

def step (run : CacheRun) (timed : TimedCall) : CacheRun where
  cache := timed.call.effect run.cache timed.now
  standing := run.stand timed.now timed.call
  clock := timed.later

def InTime (run : CacheRun) (timed : TimedCall) : Prop := run.clock ≤ timed.now ∧ timed.now ≤ timed.later

instance (run : CacheRun) (timed : TimedCall) : Decidable (run.InTime timed) :=
  inferInstanceAs (Decidable (_ ∧ _))

end CacheRun

/-! The entries that a call leaves -/

namespace PmksaCache

variable {cache : PmksaCache}

theorem mem_removeExpired {now : Instant} {entry : PmksaEntry} :
    entry ∈ cache.removeExpired now ↔ entry ∈ cache ∧ now < entry.expires := by
  simp [removeExpired]

theorem perm_swapRemove {index : Nat} (inside : index < cache.length) :
    (cache[index] :: cache.swapRemove index).Perm cache := by
  refine List.Perm.trans (List.Perm.cons _ ?_) (List.getElem_cons_eraseIdx_perm inside)
  obtain ⟨front, last, rfl⟩ : ∃ front last, cache = front ++ [last] :=
    ⟨_, _, (List.dropLast_append_getLast (List.ne_nil_of_length_pos (Nat.zero_lt_of_lt inside))).symm⟩
  simp only [swapRemove, List.getLast?_append, List.getLast?_singleton, Option.some_or]
  rw [List.length_append] at inside
  rcases Nat.lt_succ_iff_lt_or_eq.mp inside with before | rfl
  · rw [List.set_append_left _ _ before, List.dropLast_concat, List.eraseIdx_append_of_lt_length before]
    exact (List.set_perm_cons_eraseIdx before last).trans (List.perm_append_singleton last _).symm
  · rw [List.eraseIdx_append_of_length_le (Nat.le_refl _)]
    simp

def Distinct (cache : PmksaCache) : Prop := (cache.map PmksaEntry.key).Nodup

theorem Distinct.sublist {cache kept : PmksaCache} (distinct : cache.Distinct) (sub : kept.Sublist cache) :
    kept.Distinct := List.Nodup.sublist (sub.map PmksaEntry.key) distinct

theorem Distinct.perm {cache other : PmksaCache} (distinct : cache.Distinct) (same : cache.Perm other) :
    other.Distinct := (same.map PmksaEntry.key).nodup_iff.mp distinct

theorem Distinct.removeExpired (distinct : cache.Distinct) (now : Instant) :
    (cache.removeExpired now).Distinct := distinct.sublist List.filter_sublist

theorem Distinct.eq_of_key (distinct : cache.Distinct) {one other : PmksaEntry}
    (found : one ∈ cache) (found' : other ∈ cache) (same : one.key = other.key) : one = other :=
  List.inj_on_of_nodup_map distinct found found' same

/-- The first entry of a key that meets a test is the only one. -/
theorem Distinct.find?_eq_some (distinct : cache.Distinct)
    {test : PmksaEntry → Bool} {entry : PmksaEntry} :
    cache.find? (fun entry => entry.isFor key.1 key.2.1 key.2.2 && test entry) = some entry ↔
      entry ∈ cache ∧ entry.key = key ∧ test entry = true := by
  constructor
  · intro found
    have passed := List.find?_some found
    rw [Bool.and_eq_true, PmksaEntry.isFor_iff] at passed
    exact ⟨List.mem_of_find?_eq_some found, passed⟩
  · rintro ⟨member, keyed, passed⟩
    cases found : cache.find? (fun entry => entry.isFor key.1 key.2.1 key.2.2 && test entry) with
    | none =>
      have missed := List.find?_eq_none.mp found entry member
      rw [Bool.and_eq_true, PmksaEntry.isFor_iff] at missed
      exact absurd ⟨keyed, passed⟩ missed
    | some other =>
      have other' := List.find?_some found
      rw [Bool.and_eq_true, PmksaEntry.isFor_iff] at other'
      rw [distinct.eq_of_key member (List.mem_of_find?_eq_some found) (keyed.trans other'.1.symm)]

theorem Distinct.mem_rest {cache rest : PmksaCache} {gone : PmksaEntry} (distinct : cache.Distinct)
    (taken : (gone :: rest).Perm cache) {entry : PmksaEntry} :
    entry ∈ rest ↔ entry ∈ cache ∧ entry.key ≠ gone.key := by
  have keys := List.nodup_cons.mp (distinct.perm taken.symm)
  rw [← taken.mem_iff, List.mem_cons]
  constructor
  · intro member
    exact ⟨.inr member, fun same => keys.1 (same ▸ List.mem_map_of_mem member)⟩
  · rintro ⟨rfl | member, other⟩
    · exact absurd rfl other
    · exact member

/-! Insertion -/

theorem oldest_spec (some : cache ≠ []) :
    ∃ inside : cache.oldest < cache.length, ∀ other ∈ cache, cache[cache.oldest].expires ≤ other.expires := by
  have inside : cache.oldest < cache.length := by
    obtain ⟨first, member, least⟩ := cache.toFinset.exists_min_image PmksaEntry.expires
      ((List.exists_mem_of_ne_nil _ some).imp fun _ => List.mem_toFinset.mpr)
    simp only [List.mem_toFinset] at member least
    exact List.findIdx_lt_length_of_exists ⟨first, member, by simpa using least⟩
  have least : (cache.all fun other => cache[cache.oldest].expires ≤ other.expires) = true :=
    List.findIdx_getElem (w := inside)
  exact ⟨inside, fun other member => of_decide_eq_true (List.all_eq_true.mp least other member)⟩

/-- What an insertion keeps of the live entries: it takes the place of the entry of its key, or else drops the
one that expires first when the cache is full. -/
inductive Insertion (live : PmksaCache) (new : PmksaEntry) : PmksaCache → Prop
  | replaced {kept : PmksaCache} {old : PmksaEntry} (taken : (old :: kept).Perm live)
      (same : old.key = new.key) : Insertion live new kept
  | evicted {kept : PmksaCache} {victim : PmksaEntry} (unknown : ∀ other ∈ live, other.key ≠ new.key)
      (full : live.length = maxPmksaEntries) (taken : (victim :: kept).Perm live)
      (first : ∀ other ∈ live, victim.expires ≤ other.expires) : Insertion live new kept
  | added (unknown : ∀ other ∈ live, other.key ≠ new.key) (room : live.length ≠ maxPmksaEntries) :
      Insertion live new live

theorem insert_insertion (cache : PmksaCache) (new : PmksaEntry) (now : Instant) :
    ∃ kept, Insertion (cache.removeExpired now) new kept ∧ (cache.insert new now).Perm (new :: kept) := by
  unfold insert
  dsimp only
  generalize cache.removeExpired now = live
  cases found : live.findIdx? fun other => other.isFor new.ssid new.bssid new.security with
  | some index =>
    obtain ⟨inside, keyed, _⟩ := List.findIdx?_eq_some_iff_getElem.mp found
    exact ⟨live.eraseIdx index, .replaced (List.getElem_cons_eraseIdx_perm inside) (PmksaEntry.isFor_iff.mp keyed),
      List.set_perm_cons_eraseIdx inside new⟩
  | none =>
    have unknown : ∀ other ∈ live, other.key ≠ new.key := by
      intro other member same
      have missed := List.findIdx?_eq_none_iff.mp found other member
      exact Bool.eq_false_iff.mp missed (PmksaEntry.isFor_iff.mpr same)
    by_cases full : live.length = maxPmksaEntries
    · have some : live ≠ [] := List.ne_nil_of_length_pos (full ▸ Nat.zero_lt_succ 31)
      obtain ⟨inside, first⟩ := oldest_spec some
      simp only [if_pos full]
      exact ⟨_, .evicted unknown full (perm_swapRemove inside) first, List.perm_append_singleton ..⟩
    · simp only [if_neg full]
      exact ⟨live, .added unknown full, List.perm_append_singleton ..⟩

section Insertion

variable {live kept : PmksaCache} {new entry : PmksaEntry}

theorem Insertion.distinct (insertion : Insertion live new kept) (distinct : live.Distinct) :
    Distinct (new :: kept) := by
  have of_taken {gone : PmksaEntry} (taken : (gone :: kept).Perm live) :=
    List.nodup_cons.mp (distinct.perm taken.symm)
  refine List.nodup_cons.mpr ?_
  cases insertion with
  | replaced taken same => exact same ▸ of_taken taken
  | evicted unknown full taken first =>
    refine ⟨fun member => ?_, (of_taken taken).2⟩
    obtain ⟨other, found, same⟩ := List.mem_map.mp member
    exact unknown other (taken.mem_iff.mp (List.mem_cons_of_mem _ found)) same
  | added unknown room =>
    refine ⟨fun member => ?_, distinct⟩
    obtain ⟨other, found, same⟩ := List.mem_map.mp member
    exact unknown other found same

theorem Insertion.bounded (insertion : Insertion live new kept) (bounded : live.length ≤ maxPmksaEntries) :
    (new :: kept).length ≤ maxPmksaEntries := by
  cases insertion with
  | replaced taken same => exact taken.length_eq.trans_le bounded
  | evicted unknown full taken first => exact taken.length_eq.trans_le bounded
  | added unknown room => exact Nat.lt_of_le_of_ne bounded room

theorem Insertion.subset (insertion : Insertion live new kept) (member : entry ∈ kept) : entry ∈ live := by
  cases insertion with
  | replaced taken same => exact taken.mem_iff.mp (List.mem_cons_of_mem _ member)
  | evicted unknown full taken first => exact taken.mem_iff.mp (List.mem_cons_of_mem _ member)
  | added unknown room => exact member

theorem Insertion.dropped (insertion : Insertion live new kept) (distinct : live.Distinct) (member : entry ∈ live)
    (other : entry.key ≠ new.key) (gone : entry ∉ kept) :
    (∀ other ∈ live, other.key ≠ new.key) ∧ live.length = maxPmksaEntries ∧
      ∀ other ∈ live, entry.expires ≤ other.expires := by
  cases insertion with
  | replaced taken same => exact absurd ((distinct.mem_rest taken).mpr ⟨member, same ▸ other⟩) gone
  | evicted unknown full taken first =>
    rcases List.mem_cons.mp (taken.mem_iff.mpr member) with rfl | found
    · exact ⟨unknown, full, first⟩
    · exact absurd found gone
  | added unknown room => exact absurd member gone

end Insertion

end PmksaCache

/-! Runs -/

open PmksaCache

namespace CacheRun

/-- The cache is a bounded map, and its live entries are those that stand. -/
structure Upholds (run : CacheRun) : Prop where
  distinct : run.cache.Distinct
  bounded : run.cache.length ≤ maxPmksaEntries
  agrees (entry : PmksaEntry) : run.clock < entry.expires →
    (entry ∈ run.cache ↔ run.standing entry.key = some entry)
  keyed {key : PmksaKey} {entry : PmksaEntry} : run.standing key = some entry → entry.key = key

theorem fresh_upholds : fresh.Upholds where
  distinct := List.nodup_nil
  bounded := Nat.zero_le _
  agrees := by simp [fresh]
  keyed := by simp [fresh]

variable {run : CacheRun} {now later : Instant}

theorem upholds_insert (upholds : run.Upholds) (new : PmksaEntry) (past : run.clock ≤ now) (next : now ≤ later) :
    (run.step ⟨.insert new, now, later⟩).Upholds := by
  obtain ⟨kept, insertion, same⟩ := insert_insertion run.cache new now
  have live := upholds.distinct.removeExpired now
  have distinct := (insertion.distinct live).perm same.symm
  have fewer : (run.cache.removeExpired now).length ≤ maxPmksaEntries :=
    List.length_filter_le .. |>.trans upholds.bounded
  have inserted : new ∈ run.cache.insert new now := same.mem_iff.mpr List.mem_cons_self
  refine ⟨distinct, same.length_eq.trans_le (insertion.bounded fewer), fun entry alive => ?_,
    fun {key entry} stands => ?_⟩
  · have alive : now < entry.expires := Nat.lt_of_le_of_lt next alive
    have agrees := upholds.agrees entry (Nat.lt_of_le_of_lt past alive)
    change entry ∈ run.cache.insert new now ↔ run.stand now (.insert new) entry.key = some entry
    dsimp only [stand]
    split_ifs with sameKey dropped
    · rw [Option.some.injEq]
      exact ⟨fun found => (distinct.eq_of_key found inserted sameKey).symm, fun equal => equal ▸ inserted⟩
    · exact ⟨fun found => absurd rfl (dropped.2 entry found), nofun⟩
    · rw [← agrees]
      constructor
      · intro found
        rcases List.mem_cons.mp (same.mem_iff.mp found) with rfl | found
        · exact absurd rfl sameKey
        · exact (mem_removeExpired.mp (insertion.subset found)).1
      · intro found
        by_contra gone
        refine dropped ⟨⟨entry, found, rfl, alive⟩, fun other member sameOther => gone ?_⟩
        rcases List.mem_cons.mp (same.mem_iff.mp member) with rfl | member'
        · exact absurd sameOther.symm sameKey
        · rwa [← live.eq_of_key (insertion.subset member') (mem_removeExpired.mpr ⟨found, alive⟩) sameOther]
  · change run.stand now (.insert new) key = some entry at stands
    dsimp only [stand] at stands
    split_ifs at stands with sameKey dropped
    · cases stands
      exact sameKey.symm
    · exact upholds.keyed stands

/-- A call that only drops entries keeps the agreement when it takes back what it drops of the live ones. -/
theorem upholds_drop (upholds : run.Upholds) {call : CacheCall} (past : run.clock ≤ now) (next : now ≤ later)
    (withdrawn : PmksaKey → Prop) [DecidablePred withdrawn]
    (drops : ∀ entry ∈ call.effect run.cache now, entry ∈ run.cache)
    (distinct : (call.effect run.cache now).Distinct)
    (fewer : (call.effect run.cache now).length ≤ run.cache.length)
    (stays : ∀ entry ∈ run.cache, now < entry.expires →
      (entry ∈ call.effect run.cache now ↔ ¬withdrawn entry.key))
    (stand : run.stand now call = fun key => if withdrawn key then none else run.standing key) :
    (run.step ⟨call, now, later⟩).Upholds := by
  refine ⟨distinct, fewer.trans upholds.bounded, fun entry alive => ?_, fun {key entry} stands => ?_⟩
  · have alive : now < entry.expires := Nat.lt_of_le_of_lt next alive
    have agrees := upholds.agrees entry (Nat.lt_of_le_of_lt past alive)
    change entry ∈ call.effect run.cache now ↔ run.stand now call entry.key = some entry
    rw [stand]
    dsimp only
    split_ifs with gone
    · refine ⟨fun found => absurd gone ((stays entry (drops entry found) alive).mp found), nofun⟩
    · rw [← agrees]
      exact ⟨drops entry, fun found => (stays entry found alive).mpr gone⟩
  · change run.stand now call key = some entry at stands
    rw [stand] at stands
    dsimp only at stands
    split_ifs at stands
    exact upholds.keyed stands

theorem upholds_purge (upholds : run.Upholds) {call : CacheCall} (past : run.clock ≤ now) (next : now ≤ later)
    (purges : call.effect run.cache now = run.cache.removeExpired now)
    (stand : run.stand now call = run.standing) : (run.step ⟨call, now, later⟩).Upholds := by
  refine upholds_drop upholds past next (fun _ => False) ?_ ?_ ?_ ?_ (by simp [stand])
  all_goals rw [purges]
  · exact fun entry found => (mem_removeExpired.mp found).1
  · exact upholds.distinct.removeExpired now
  · exact List.length_filter_le ..
  · exact fun entry found alive => ⟨fun _ => id, fun _ => mem_removeExpired.mpr ⟨found, alive⟩⟩

theorem invalidate_cases (cache : PmksaCache) (key : PmksaKey) :
    (∃ gone, gone.key = key ∧ (gone :: cache.invalidate key.1 key.2.1 key.2.2).Perm cache) ∨
      cache.invalidate key.1 key.2.1 key.2.2 = cache ∧ ∀ entry ∈ cache, entry.key ≠ key := by
  unfold PmksaCache.invalidate
  cases found : cache.findIdx? fun entry => entry.isFor key.1 key.2.1 key.2.2 with
  | some index =>
    obtain ⟨inside, keyed, _⟩ := List.findIdx?_eq_some_iff_getElem.mp found
    exact .inl ⟨cache[index], PmksaEntry.isFor_iff.mp keyed, perm_swapRemove inside⟩
  | none =>
    refine .inr ⟨rfl, fun entry member same => ?_⟩
    have missed := List.findIdx?_eq_none_iff.mp found entry member
    exact Bool.eq_false_iff.mp missed (PmksaEntry.isFor_iff.mpr same)

theorem mem_invalidate {cache : PmksaCache} (distinct : cache.Distinct) {entry : PmksaEntry} :
    entry ∈ cache.invalidate key.1 key.2.1 key.2.2 ↔ entry ∈ cache ∧ entry.key ≠ key := by
  rcases invalidate_cases cache key with ⟨gone, rfl, taken⟩ | ⟨same, unknown⟩
  · exact distinct.mem_rest taken
  · rw [same]
    exact ⟨fun found => ⟨found, unknown entry found⟩, And.left⟩

theorem mem_removeSsid {cache : PmksaCache} {ssid : String} {entry : PmksaEntry} :
    entry ∈ (cache.removeSsid ssid).1 ↔ entry ∈ cache ∧ entry.ssid ≠ ssid := by
  simp [PmksaCache.removeSsid]

theorem upholds_invalidate (upholds : run.Upholds) (key : PmksaKey) (past : run.clock ≤ now) (next : now ≤ later) :
    (run.step ⟨.invalidate key, now, later⟩).Upholds := by
  have less : (run.cache.invalidate key.1 key.2.1 key.2.2).Distinct ∧
      (run.cache.invalidate key.1 key.2.1 key.2.2).length ≤ run.cache.length := by
    rcases invalidate_cases run.cache key with ⟨gone, _, taken⟩ | ⟨same, _⟩
    · exact ⟨(List.nodup_cons.mp (upholds.distinct.perm taken.symm)).2,
        (Nat.le_succ _).trans_eq taken.length_eq⟩
    · rw [same]
      exact ⟨upholds.distinct, Nat.le_refl _⟩
  exact upholds_drop upholds past next (fun other => other = key)
    (fun entry found => ((mem_invalidate upholds.distinct).mp found).1) less.1 less.2
    (fun entry found _ => (mem_invalidate upholds.distinct).trans (and_iff_right found)) rfl

theorem upholds_removeSsid (upholds : run.Upholds) (ssid : String) (past : run.clock ≤ now) (next : now ≤ later) :
    (run.step ⟨.removeSsid ssid, now, later⟩).Upholds :=
  upholds_drop upholds past next (fun key => key.1 = ssid) (fun _ found => (mem_removeSsid.mp found).1)
    (upholds.distinct.sublist List.filter_sublist) (List.length_filter_le ..)
    (fun _ found _ => mem_removeSsid.trans (and_iff_right found)) rfl

theorem step_upholds (run : CacheRun) (timed : TimedCall) (upholds : run.Upholds) (inTime : run.InTime timed) :
    (run.step timed).Upholds := by
  obtain ⟨call, now, later⟩ := timed
  obtain ⟨past, next⟩ := inTime
  cases call with
  | insert entry => exact upholds_insert upholds entry past next
  | invalidate key => exact upholds_invalidate upholds key past next
  | removeSsid ssid => exact upholds_removeSsid upholds ssid past next
  | lookup _ | lookupPastReauth _ | contains _ | removeExpired => exact upholds_purge upholds past next rfl rfl

/-! What the cache answers -/

theorem Upholds.find_live (upholds : run.Upholds) (past : run.clock ≤ now)
    (test : PmksaEntry → Bool) :
    (run.cache.removeExpired now).find? (fun entry => entry.isFor key.1 key.2.1 key.2.2 && test entry) =
      (run.standing key).filter fun entry => now < entry.expires && test entry := by
  refine Option.ext fun entry => ?_
  rw [(upholds.distinct.removeExpired now).find?_eq_some, mem_removeExpired, Option.filter_eq_some_iff,
    Bool.and_eq_true, decide_eq_true_eq]
  constructor
  · rintro ⟨⟨found, alive⟩, rfl, passed⟩
    exact ⟨(upholds.agrees entry (Nat.lt_of_le_of_lt past alive)).mp found, alive, passed⟩
  · rintro ⟨stands, alive, passed⟩
    obtain rfl := upholds.keyed stands
    exact ⟨⟨(upholds.agrees entry (Nat.lt_of_le_of_lt past alive)).mpr stands, alive⟩, rfl, passed⟩

end CacheRun

/-- The entry goes by a call that is meant to take it away: its key is invalidated, its network is removed or a
new entry of its key is inserted. -/
def CacheCall.Withdraws (entry : PmksaEntry) : CacheCall → Prop
  | insert new => new.key = entry.key
  | invalidate key => key = entry.key
  | removeSsid ssid => ssid = entry.ssid
  | lookup _ | lookupPastReauth _ | contains _ | removeExpired => False

/-- A new key is inserted into a cache full of live entries, of which none expires before `entry`. -/
def CacheCall.Crowds (cache : PmksaCache) (now : Instant) (entry : PmksaEntry) : CacheCall → Prop
  | insert new => (∀ other ∈ cache.removeExpired now, other.key ≠ new.key) ∧
      (cache.removeExpired now).length = maxPmksaEntries ∧
      ∀ other ∈ cache.removeExpired now, entry.expires ≤ other.expires
  | _ => False

structure CacheRun.Refines (run : CacheRun) : Prop where
  distinct : (run.cache.map PmksaEntry.key).Nodup
  bounded : run.cache.length ≤ 32
  lookup (key : PmksaKey) {now later : Instant} : run.clock ≤ now → now ≤ later →
    run.cache.lookupBetween key now later =
      (run.standing key).filter fun entry => now < entry.expires && later < entry.reauthAt
  lookupPastReauth (key : PmksaKey) {now later : Instant} : run.clock ≤ now → now ≤ later →
    run.cache.lookupPastReauthBetween key now later =
      (run.standing key).filter fun entry => now < entry.expires && entry.reauthAt ≤ later
  contains (key : PmksaKey) {now : Instant} : run.clock ≤ now →
    run.cache.contains key.1 key.2.1 key.2.2 now = (run.standing key).any fun entry => now < entry.expires
  exclusive (key : PmksaKey) (now now' later : Instant) :
    ¬((run.cache.lookupBetween key now later).isSome ∧ (run.cache.lookupPastReauthBetween key now' later).isSome)
  leaves (call : CacheCall) {now : Instant} {entry : PmksaEntry} : entry ∈ run.cache → now < entry.expires →
    entry ∉ call.effect run.cache now → call.Withdraws entry ∨ call.Crowds run.cache now entry
  inserted (entry : PmksaEntry) {again now later : Instant} : run.clock ≤ again → again ≤ now → now ≤ later →
    (run.cache.insert entry again).lookupBetween entry.key now later =
      (some entry).filter fun entry => now < entry.expires && later < entry.reauthAt
  renewed {key : PmksaKey} {entry : PmksaEntry} {first second again now later : Instant} :
    run.cache.lookupBetween key first second = some entry → run.clock ≤ first → first ≤ second → second ≤ again →
    again ≤ now → now ≤ later →
    (run.cache.insert entry again).lookupBetween key now later = run.cache.lookupBetween key now later

namespace CacheRun

variable {run : CacheRun}

theorem Upholds.lookup (upholds : run.Upholds) (key : PmksaKey) {now later : Instant} (past : run.clock ≤ now) :
    run.cache.lookupBetween key now later =
      (run.standing key).filter fun entry => now < entry.expires && later < entry.reauthAt := by
  have before (entry : PmksaEntry) : (!entry.pastReauthThreshold later) = decide (later < entry.reauthAt) := by
    rw [PmksaEntry.pastReauthThreshold, ← decide_not]
    exact decide_eq_decide.mpr Nat.not_le
  rw [lookupBetween, upholds.find_live past fun entry => !entry.pastReauthThreshold later]
  simp only [before]

theorem Upholds.lookupPastReauth (upholds : run.Upholds) (key : PmksaKey) {now later : Instant}
    (past : run.clock ≤ now) :
    run.cache.lookupPastReauthBetween key now later =
      (run.standing key).filter fun entry => now < entry.expires && entry.reauthAt ≤ later := by
  rw [lookupPastReauthBetween, upholds.find_live past fun entry => entry.pastReauthThreshold later]
  simp [PmksaEntry.pastReauthThreshold]

theorem Upholds.contains (upholds : run.Upholds) (key : PmksaKey) {now : Instant} (past : run.clock ≤ now) :
    run.cache.contains key.1 key.2.1 key.2.2 now = (run.standing key).any fun entry => now < entry.expires := by
  rw [Bool.eq_iff_iff, PmksaCache.contains, List.any_eq_true, Option.any_eq_true]
  simp only [PmksaEntry.isFor_iff, mem_removeExpired, decide_eq_true_eq]
  constructor
  · rintro ⟨entry, ⟨found, alive⟩, rfl⟩
    exact ⟨entry, (upholds.agrees entry (Nat.lt_of_le_of_lt past alive)).mp found, alive⟩
  · rintro ⟨entry, stands, alive⟩
    obtain rfl := upholds.keyed stands
    exact ⟨entry, ⟨(upholds.agrees entry (Nat.lt_of_le_of_lt past alive)).mpr stands, alive⟩, rfl⟩

theorem Upholds.exclusive (upholds : run.Upholds) (key : PmksaKey) (now now' later : Instant) :
    ¬((run.cache.lookupBetween key now later).isSome ∧
      (run.cache.lookupPastReauthBetween key now' later).isSome) := by
  simp only [Option.isSome_iff_exists]
  rintro ⟨⟨entry, fresh⟩, other, old⟩
  obtain ⟨found, keyed, before⟩ := (upholds.distinct.removeExpired now).find?_eq_some.mp fresh
  obtain ⟨found', keyed', past⟩ := (upholds.distinct.removeExpired now').find?_eq_some.mp old
  have same := upholds.distinct.eq_of_key (mem_removeExpired.mp found).1 (mem_removeExpired.mp found').1
    (keyed.trans keyed'.symm)
  rw [same, past] at before
  cases before

/-- A live entry leaves the cache only by a call that takes it away or by an eviction. -/
theorem Upholds.leaves (upholds : run.Upholds) (call : CacheCall) {now : Instant} {entry : PmksaEntry}
    (found : entry ∈ run.cache) (alive : now < entry.expires) (gone : entry ∉ call.effect run.cache now) :
    call.Withdraws entry ∨ call.Crowds run.cache now entry := by
  have live : entry ∈ run.cache.removeExpired now := mem_removeExpired.mpr ⟨found, alive⟩
  cases call with
  | insert new =>
    by_cases same : new.key = entry.key
    · exact .inl same
    obtain ⟨kept, insertion, perm⟩ := insert_insertion run.cache new now
    refine .inr (insertion.dropped (upholds.distinct.removeExpired now) live (Ne.symm same) fun stays => gone ?_)
    exact perm.mem_iff.mpr (List.mem_cons_of_mem _ stays)
  | invalidate key =>
    by_contra other
    refine gone ((mem_invalidate upholds.distinct).mpr ⟨found, fun same => other (.inl same.symm)⟩)
  | removeSsid ssid =>
    by_contra other
    refine gone (mem_removeSsid.mpr ⟨found, fun same => other (.inl same.symm)⟩)
  | lookup _ | lookupPastReauth _ | contains _ | removeExpired => exact absurd live gone

theorem Upholds.inserted (upholds : run.Upholds) (entry : PmksaEntry) {again now later : Instant}
    (past : run.clock ≤ again) (between : again ≤ now) :
    (run.cache.insert entry again).lookupBetween entry.key now later =
      (some entry).filter fun entry => now < entry.expires && later < entry.reauthAt := by
  have standing : (run.step ⟨.insert entry, again, again⟩).standing entry.key = some entry := if_pos rfl
  rw [← standing]
  exact (step_upholds run ⟨.insert entry, again, again⟩ upholds ⟨past, Nat.le_refl _⟩).lookup entry.key between

theorem Upholds.renewed (upholds : run.Upholds) {entry : PmksaEntry}
    {first second again now later : Instant} (looked : run.cache.lookupBetween key first second = some entry)
    (past : run.clock ≤ first) (late : first ≤ again) (between : again ≤ now) :
    (run.cache.insert entry again).lookupBetween key now later = run.cache.lookupBetween key now later := by
  rw [upholds.lookup key past, Option.filter_eq_some_iff] at looked
  obtain rfl := upholds.keyed looked.1
  rw [upholds.inserted entry (past.trans late) between, upholds.lookup entry.key (past.trans (late.trans between)),
    looked.1]

theorem Upholds.refines (upholds : run.Upholds) : run.Refines where
  distinct := upholds.distinct
  bounded := upholds.bounded
  lookup key _ _ past _ := upholds.lookup key past
  lookupPastReauth key _ _ past _ := upholds.lookupPastReauth key past
  contains key _ past := upholds.contains key past
  exclusive := upholds.exclusive
  leaves call _ _ := upholds.leaves call
  inserted entry _ _ _ past between _ := upholds.inserted entry past between
  renewed looked past next late between _ := upholds.renewed looked past (next.trans late) between

end CacheRun

/-- The cache refines a bounded map over every history of calls. -/
theorem pmksa_cache_refines {calls : List TimedCall}
    (ordered : Admitted CacheRun.step CacheRun.InTime CacheRun.fresh calls) :
    (runInputs CacheRun.step CacheRun.fresh calls).Refines :=
  (run_invariant CacheRun.step_upholds CacheRun.fresh_upholds ordered).refines

def cachedEntry (now : Instant) : PmksaEntry :=
  .new "net" ⟨List.replicate 6 2, rfl⟩ .sae ⟨List.replicate 16 0, rfl⟩ ⟨List.replicate 32 0, rfl⟩ .hmacSha256 now

def cachedCalls : List TimedCall :=
  [⟨.insert (cachedEntry 10), 10, 10⟩, ⟨.lookup (cachedEntry 10).key, 20, 21⟩, ⟨.removeSsid "other", 30, 30⟩]

theorem pmksa_cache_refines_sample :
    Admitted CacheRun.step CacheRun.InTime CacheRun.fresh cachedCalls ∧
      (runInputs CacheRun.step CacheRun.fresh cachedCalls).cache.lookupBetween (cachedEntry 10).key 40 41 =
        some (cachedEntry 10) :=
  have ordered : Admitted CacheRun.step CacheRun.InTime CacheRun.fresh cachedCalls := by decide
  ⟨ordered, ((pmksa_cache_refines ordered).lookup _ (by decide) (by decide)).trans (by decide +kernel)⟩

end Shuli.Wifi
