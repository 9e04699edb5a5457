import ExternalSort.Proofs.Settings.Properties

/-!
# Lists of properties

A pair that can be read (`IsReadable`) is a property, and its text is a value if it names a
setting. A list of such pairs is applied as a whole. In any other list, the first pair that
cannot be read stops the work, and what the pairs before it have done stays.

The settings in the end depend on the values that are given last and on nothing else
(`Settings.applyPairs_congr`). So it makes no difference to leave out a pair that names no
setting, or to swap two neighbours with different keys.
-/

namespace ExternalSort

variable {pair : String} {pairs : List String}

/-! ## 1. Pairs that cannot be read -/

theorem exists_pairFault (h : ¬IsReadable pair) : ∃ fault, PairFault pair fault := by
  rw [isReadable_iff] at h
  exact Classical.not_forall_not.1 h

/-! ## 2. Last values -/

namespace Setting

variable {setting : Setting} {first second : String} {property property' : Property}

theorem lastGiven?_of_unknown (h : Property.read pair = .ok property)
    (hunknown : ofKey? property.key = none) (earlier later : List String) :
    setting.lastGiven? (earlier ++ pair :: later) = setting.lastGiven? (earlier ++ later) := by
  have hgiven : setting.given? pair = none := by
    rw [Settings.given?_of_read h, if_neg (key_ne_of_ofKey? hunknown setting)]
  rw [lastGiven?, lastGiven?, List.filterMap_append, List.filterMap_append,
    List.filterMap_cons_none hgiven]

theorem lastGiven?_swap (hfirst : Property.read first = .ok property)
    (hsecond : Property.read second = .ok property') (hkeys : property.key ≠ property'.key)
    (earlier later : List String) :
    setting.lastGiven? (earlier ++ second :: first :: later)
      = setting.lastGiven? (earlier ++ first :: second :: later) := by
  -- One of the two gives nothing to the setting, so it does not matter where it stands.
  have hone : setting.given? first = none ∨ setting.given? second = none := by
    rw [Settings.given?_of_read hfirst, Settings.given?_of_read hsecond]
    by_cases hkey : property.key = setting.key
    · right
      exact if_neg fun hkey' => hkeys (hkey.trans hkey'.symm)
    · left
      exact if_neg hkey
  rcases hone with hnone | hnone <;> simp [lastGiven?, List.filterMap_cons, hnone]

end Setting

/-! ## 3. Lists -/

namespace Settings

variable {settings changed other : Settings} {earlier pairs' : List String} {log : Log}

theorem IsEdited.eq (h : IsEdited settings pairs changed) (h' : IsEdited settings pairs' other)
    (hlast : ∀ setting : Setting, setting.lastGiven? pairs = setting.lastGiven? pairs') :
    changed = other := by
  apply ext_get
  · intro setting
    rw [h.get_eq, h'.get_eq, hlast]
  · rw [h.mergePolicy_eq, h'.mergePolicy_eq]

theorem applyPairs_of_readable (h : ∀ pair ∈ pairs, IsReadable pair) (settings : Settings)
    (log : Log) :
    ∃ changed, IsEdited settings pairs changed ∧
      (Logged.after (settings.applyPairs pairs) log).1 = ⟨changed, none⟩ :=
  applyPairs_of_good (fun pair hpair => isReadable_iff.1 (h pair hpair)) settings log

/-- A pair that cannot be read undoes nothing, and the pairs behind it do nothing. -/
theorem applyPairs_of_unreadable (h : ∀ good ∈ earlier, IsReadable good)
    {fault : SettingsError} (hfault : PairFault pair fault) (settings : Settings)
    (later : List String) (log : Log) :
    (Logged.after (settings.applyPairs (earlier ++ pair :: later)) log).1
      = ⟨(Logged.after (settings.applyPairs earlier) log).1.settings, some fault⟩ := by
  obtain ⟨stopped, hstopped, hrun⟩ := applyPairs_of_fault
    (fun good hgood => isReadable_iff.1 (h good hgood)) hfault settings later log
  obtain ⟨changed, hchanged, hrun'⟩ := applyPairs_of_readable h settings log
  rw [hrun, hrun', hstopped.eq hchanged fun _ => rfl]

/-- The values that are given last decide. -/
theorem applyPairs_congr (h : ∀ pair ∈ pairs, IsReadable pair)
    (h' : ∀ pair ∈ pairs', IsReadable pair)
    (hlast : ∀ setting : Setting, setting.lastGiven? pairs = setting.lastGiven? pairs')
    (settings : Settings) (log : Log) :
    (Logged.after (settings.applyPairs pairs) log).1
      = (Logged.after (settings.applyPairs pairs') log).1 := by
  obtain ⟨changed, hchanged, hrun⟩ := applyPairs_of_readable h settings log
  obtain ⟨other, hother, hrun'⟩ := applyPairs_of_readable h' settings log
  rw [hrun, hrun', hchanged.eq hother hlast]

theorem applyPairs_fault?_eq_none_iff :
    (Logged.after (settings.applyPairs pairs) log).1.fault? = none ↔
      ∀ pair ∈ pairs, IsReadable pair := by
  constructor
  · intro hnone
    apply Classical.byContradiction
    intro h
    obtain ⟨earlier, pair, later, rfl, hearlier, hpair⟩ := exists_first_not h
    obtain ⟨fault, hfault⟩ := exists_pairFault hpair
    rw [applyPairs_of_unreadable hearlier hfault] at hnone
    cases hnone
  · intro h
    obtain ⟨changed, -, hrun⟩ := applyPairs_of_readable h settings log
    rw [hrun]

/-- A list is applied as a whole exactly if all of its pairs can be read. Then each setting
has the value that it was given last, pairs that name no setting do nothing, and neighbours
with different keys may be swapped. Otherwise the settings are those that the pairs before
the first unreadable one leave. -/
theorem applyPairs_atomic (settings : Settings) (pairs : List String) (log : Log) :
    let outcome (pairs : List String) := (Logged.after (settings.applyPairs pairs) log).1
    ((outcome pairs).fault? = none ↔ ∀ pair ∈ pairs, IsReadable pair) ∧
    (∀ earlier pair later, pairs = earlier ++ pair :: later →
      (∀ good ∈ earlier, IsReadable good) → ¬IsReadable pair →
      ∃ fault, PairFault pair fault ∧
        outcome pairs = ⟨(outcome earlier).settings, some fault⟩) ∧
    ((∀ pair ∈ pairs, IsReadable pair) →
      settings.IsEdited pairs (outcome pairs).settings ∧
      (∀ earlier pair later property, pairs = earlier ++ pair :: later →
        Property.read pair = .ok property → Setting.ofKey? property.key = none →
        outcome (earlier ++ later) = outcome pairs) ∧
      ∀ earlier first second later property property',
        pairs = earlier ++ first :: second :: later →
        Property.read first = .ok property → Property.read second = .ok property' →
        property.key ≠ property'.key →
        outcome (earlier ++ second :: first :: later) = outcome pairs) := by
  intro outcome
  refine ⟨applyPairs_fault?_eq_none_iff, ?_, ?_⟩
  · rintro earlier pair later rfl hearlier hpair
    obtain ⟨fault, hfault⟩ := exists_pairFault hpair
    exact ⟨fault, hfault, applyPairs_of_unreadable hearlier hfault settings later log⟩
  · intro h
    refine ⟨?_, ?_, ?_⟩
    · obtain ⟨changed, hedited, hrun⟩ := applyPairs_of_readable h settings log
      show settings.IsEdited pairs (Logged.after (settings.applyPairs pairs) log).1.settings
      rw [hrun]
      exact hedited
    · rintro earlier pair later property rfl hread hunknown
      apply applyPairs_congr _ h
      · intro setting
        exact (Setting.lastGiven?_of_unknown hread hunknown earlier later).symm
      · intro other hother
        exact h other (((List.sublist_cons_self pair later).append_left earlier).subset hother)
    · rintro earlier first second later property property' rfl hfirst hsecond hkeys
      apply applyPairs_congr _ h
      · intro setting
        exact Setting.lastGiven?_swap hfirst hsecond hkeys earlier later
      · intro other hother
        exact h other (((List.Perm.swap first second later).append_left earlier).subset hother)

/-- The later of two sizes counts, whatever stands between them, unless the list stops
there. -/
theorem applyPairs_atomic_twoSizes :
    let outcome (pairs : List String) := (Logged.after (({} : Settings).applyPairs pairs) #[]).1
    let one := "mapreduce.task.io.sort.mb=1"
    let seven := " mapreduce.task.io.sort.mb = 7"
    let many := "mapreduce.job.reduces=many"
    (outcome [one, "color=red", seven]).settings.sortBufferMb = 7 ∧
    outcome [one, seven] = outcome [one, "color=red", seven] ∧
    outcome [one, seven, "color=red"] = outcome [one, "color=red", seven] ∧
    (outcome [one, many, seven]).fault? ≠ none ∧
    (outcome [one, many, seven]).settings.sortBufferMb = 1 := by
  intro outcome one seven many
  have hone : Property.read "mapreduce.task.io.sort.mb=1"
      = .ok ⟨Setting.sortBufferMb.key, "1"⟩ := rfl
  have hseven : Property.read " mapreduce.task.io.sort.mb = 7"
      = .ok ⟨Setting.sortBufferMb.key, " 7"⟩ := rfl
  have hmany : Property.read "mapreduce.job.reduces=many"
      = .ok ⟨Setting.partitions.key, "many"⟩ := rfl
  have hcolor : Property.read "color=red" = .ok ⟨"color", "red"⟩ := rfl
  have hreadOne : IsReadable one :=
    isReadable_of_value hone rfl (rfl : Setting.sortBufferMb.read (Text.trim "1") = .ok 1)
  have hreadSeven : IsReadable seven :=
    isReadable_of_value hseven rfl (rfl : Setting.sortBufferMb.read (Text.trim " 7") = .ok 7)
  have hreadColor : IsReadable "color=red" := isReadable_of_unknown hcolor rfl
  have hreadMany : ¬IsReadable many := by
    intro h
    exact isReadable_iff.1 h _ (.badValue hmany rfl
      (rfl : Setting.partitions.read (Text.trim "many") = .error (.numeral .invalidDigit)))
  have hgood : ∀ pair ∈ [one, "color=red", seven], IsReadable pair :=
    List.forall_mem_cons.2 ⟨hreadOne, List.forall_mem_cons.2
      ⟨hreadColor, List.forall_mem_singleton.2 hreadSeven⟩⟩
  have hlast : ∀ edited, IsEdited {} ["mapreduce.task.io.sort.mb=1", "color=red",
      " mapreduce.task.io.sort.mb = 7"] edited → edited.sortBufferMb = 7 :=
    fun edited h => h.get_eq .sortBufferMb
  have hfirst : ∀ edited, IsEdited {} ["mapreduce.task.io.sort.mb=1"] edited →
      edited.sortBufferMb = 1 :=
    fun edited h => h.get_eq .sortBufferMb
  obtain ⟨-, -, happlied⟩ := applyPairs_atomic {} [one, "color=red", seven] #[]
  obtain ⟨hedited, hignored, hswapped⟩ := happlied hgood
  obtain ⟨-, hstopped, -⟩ := applyPairs_atomic {} [one, many, seven] #[]
  obtain ⟨fault, -, hrun⟩ :=
    hstopped [one] many [seven] rfl (List.forall_mem_singleton.2 hreadOne) hreadMany
  obtain ⟨-, -, hbefore⟩ := applyPairs_atomic {} [one] #[]
  obtain ⟨hstart, -⟩ := hbefore (List.forall_mem_singleton.2 hreadOne)
  have hbad : outcome [one, many, seven] = ⟨(outcome [one]).settings, some fault⟩ := hrun
  refine ⟨hlast _ hedited, ?_, ?_, ?_⟩
  · exact hignored [one] "color=red" [seven] _ rfl hcolor rfl
  · exact hswapped [one] "color=red" seven [] _ _ rfl hcolor hseven (by decide)
  · rw [hbad]
    exact ⟨Option.some_ne_none fault, hfirst _ hstart⟩

end Settings

end ExternalSort
