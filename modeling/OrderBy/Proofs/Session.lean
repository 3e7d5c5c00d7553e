/-
  OrderBy.Proofs.Session
  ──────────────────────
  **A SESSION KEEPS ITS NUMBERS STRAIGHT.**

  Whatever commands are carried out, in whatever order, and however many of them fail:

      records    the number of each is its place; only a push adds one
      list       numbers of records that there are, none of them twice
      failures   might as well have been left out
      settings   decide what stands in for a missing expression, and nothing else

  The first two are an invariant.  What one command can do is said once; that it keeps
  the invariant is a look at each of these changes, and a run of commands keeps it by
  induction.
-/
import OrderBy.Proofs.Reading.Values
import OrderBy.Proofs.WaysIn
import OrderBy.Session

namespace OrderBy

variable {σ : Type}

/-! ## §1. Sorts lose nothing. -/

/-- A sort that returns has read its expression and listed its records. -/
theorem Sorter.exists_phases {s : Sorter} {schedule : List Nat} {source : Source}
    {criterion : Criterion} {extractors : Extractors σ} {st : σ} {out : List Record}
    (h : (s.sort schedule source criterion extractors).outcome st = .ok out) :
    ∃ e records concurrent, (criterion.read s.parser).outcome = .ok e
      ∧ source.toList = .ok records ∧ s.isConcurrent = .ok concurrent := by
  unfold Sorter.sort at h
  rw [Run.outcome_map] at h
  obtain ⟨sorted, hsorted, -⟩ := map_eq_ok.mp h
  rw [Sorter.sortKeyed_eq] at hsorted
  obtain ⟨e, hread, hsorted⟩ := Run.outcome_bind_eq_ok hsorted
  unfold Sorter.sortByKeys at hsorted
  obtain ⟨records, hsource, hsorted⟩ := Run.outcome_bind_eq_ok hsorted
  obtain ⟨concurrent, hworkers, -⟩ := Run.outcome_bind_eq_ok hsorted
  exact ⟨e, records, concurrent, hread, hsource, hworkers⟩

/-- **What a sort returns are the records that it was given**, whatever it compares them by. -/
theorem Sorter.sort_perm {s : Sorter} {schedule : List Nat} {records : List Record}
    {criterion : Criterion} {extractors : Extractors σ} {st : σ} {out : List Record}
    (h : (s.sort schedule (.records records) criterion extractors).outcome st = .ok out) :
    out.Perm records := by
  obtain ⟨e, records', concurrent, hread, hsource, hworkers⟩ := Sorter.exists_phases h
  obtain rfl : records = records' := Except.ok.inj hsource
  obtain ⟨decorated, hdecorate⟩ := exists_decorate_of_sort hread hsource hworkers h
  rw [sort_of_decorate hread hsource hworkers hdecorate] at h
  obtain ⟨sorted, hsorted, rfl⟩ := map_eq_ok.mp h
  have perm := ((sortDecorated_without_perm _ _).2 sorted hsorted).map Decorated.record
  rwa [(decorate_shape hdecorate).records] at perm

theorem BoundSorter.sort_perm {s : BoundSorter} {schedule : List Nat} {records : List Record}
    {criterion : Criterion} {extractors : Extractors σ} {st : σ} {out : List Record}
    (h : (s.sort schedule (.records records) criterion extractors).outcome st = .ok out) :
    out.Perm records := by
  unfold BoundSorter.sort BoundSorter.sortKeyed at h
  rw [map_bind] at h
  obtain ⟨c, _, h⟩ := Run.outcome_bind_eq_ok h
  exact Sorter.sort_perm h

/-! ## §2. What one command does. -/

/-- Whether a command creates a record. -/
def Command.isPush : Command → Bool
  | push _ => true
  | _ => false

/-- Whether a command looks at the settings or assigns to one of them. -/
def Command.isSetting : Command → Bool
  | setSetting _ _ | getSettings => true
  | _ => false

namespace Session

/-- A session in which the number of each record is its place, and the list names records
that there are, none of them twice. -/
structure Sound (s : Session) : Prop where
  numbered : s.records.map Record.id = List.range s.records.length
  listed : ∀ n ∈ s.list, n < s.records.length
  once : s.list.Nodup

/-- The records of the list have the numbers that it names. -/
theorem Sound.map_id_listed {s : Session} (h : s.Sound) :
    (s.list.filterMap (fun i => s.records[i]?)).map Record.id = s.list := by
  have named : ∀ i ∈ s.list, Record.id <$> s.records[i]? = some i := by
    intro i hi
    have inside := h.listed i hi
    have id := List.getElem_of_eq h.numbered (by rwa [List.length_map] : i < _)
    rw [List.getElem_map, List.getElem_range] at id
    rw [List.getElem?_eq_getElem inside]
    exact congrArg some id
  rw [List.map_filterMap]
  exact (List.filterMap_congr named).trans List.filterMap_some

/-- **A sort names the numbers of the list, each as often as the list does.** -/
theorem Sound.sortNumbers_perm {s : Session} (h : s.Sound) {bySorter : Bool} {order : SortOrder}
    {numbers : List Nat} (hnumbers : (s.sortNumbers bySorter order).outcome = .ok numbers) :
    numbers.Perm s.list := by
  unfold sortNumbers at hnumbers
  obtain ⟨criterion, _, hnumbers⟩ := Traced.outcome_bind_eq_ok hnumbers
  rw [Traced.outcome_map] at hnumbers
  obtain ⟨out, hout, rfl⟩ := map_eq_ok.mp hnumbers
  rw [← h.map_id_listed]
  refine List.Perm.map _ ?_
  cases bySorter with
  | true => exact BoundSorter.sort_perm hout
  | false =>
      -- the list makes a list of its records, which is what it sorts
      obtain ⟨l, hl, hout⟩ := Run.outcome_bind_eq_ok hout
      rw [RecordList.sortBy_ofSource hl] at hout
      exact Sorter.sort_perm hout

/-- What a command that does not fail may do to a session. -/
inductive Changes (s : Session) : Command → Session → Prop where
  | nothing (c : Command) : Changes s c s
  /-- The list is put into another order, or something is taken from it. -/
  | list (c : Command) {list : List Nat} : list.Subperm s.list → Changes s c { s with list }
  | stored (v : Value) (e : Expression) : Changes s (.parse v) { s with stored := some e }
  | sorter (c : Command) (sorter : BoundSorter) : Changes s c { s with sorter }
  | push (body : RecordBody) : Changes s (.push body)
      { s with records := s.records ++ [⟨s.records.length, body⟩],
               list := s.list ++ [s.records.length] }
  | field (i : Nat) (name : String) (v : Value) : Changes s (.setField i name v)
      { s with records := s.records.modify i (·.setField name v) }

theorem popAt_sublist {list list' : List Nat} {index : Int} (h : popAt list index = .ok list') :
    list'.Sublist list := by
  unfold popAt at h
  dsimp only at h
  repeat' split at h
  all_goals cases h
  all_goals exact List.eraseIdx_sublist _ _

theorem Sound.sorted_changes {s s' : Session} (h : s.Sound) {bySorter : Bool} {order : SortOrder}
    {reply : Reply} (c : Command) (hc : (s.sorted bySorter order).outcome = .ok (reply, s')) :
    s.Changes c s' := by
  obtain ⟨numbers, hnumbers, hc⟩ := Traced.outcome_bind_eq_ok hc
  obtain ⟨rfl, rfl⟩ := Prod.mk.inj (Except.ok.inj hc)
  cases order.keep with
  | true => exact .list c (h.sortNumbers_perm hnumbers).subperm
  | false => exact .nothing c

/-- **A command does one of these things.** -/
theorem Sound.carryOut_changes {s s' : Session} (h : s.Sound) {c : Command} {reply : Reply}
    (hc : (s.carryOut c).outcome = .ok (reply, s')) : s.Changes c s' := by
  cases c with
  | sort order => exact h.sorted_changes _ hc
  | sortList order => exact h.sorted_changes _ hc
  | parse v =>
      obtain ⟨e, _, hc⟩ := Traced.outcome_bind_eq_ok hc
      obtain ⟨rfl, rfl⟩ := Prod.mk.inj (Except.ok.inj hc)
      exact .stored v e
  | setSetting name v =>
      obtain ⟨settings, _, hc⟩ := Traced.outcome_bind_eq_ok hc
      obtain ⟨rfl, rfl⟩ := Prod.mk.inj (Except.ok.inj hc)
      exact .sorter _ _
  | getSettings =>
      obtain ⟨rfl, rfl⟩ := Prod.mk.inj (Except.ok.inj hc)
      exact .nothing _
  | setWarn v =>
      obtain ⟨rfl, rfl⟩ := Prod.mk.inj (Except.ok.inj hc)
      exact .sorter _ _
  | setWorkers v =>
      obtain ⟨rfl, rfl⟩ := Prod.mk.inj (Except.ok.inj hc)
      exact .sorter _ _
  | push body =>
      obtain ⟨rfl, rfl⟩ := Prod.mk.inj (Except.ok.inj hc)
      exact .push body
  | pop index =>
      simp only [carryOut] at hc
      split at hc
      · obtain ⟨list, hlist, hc⟩ := Traced.outcome_bind_eq_ok hc
        obtain ⟨rfl, rfl⟩ := Prod.mk.inj (Except.ok.inj hc)
        exact .list _ (popAt_sublist hlist).subperm
      · cases hc
  | reverse =>
      obtain ⟨rfl, rfl⟩ := Prod.mk.inj (Except.ok.inj hc)
      exact .list _ s.list.reverse_perm.subperm
  | setField i name v =>
      obtain ⟨rfl, rfl⟩ := Prod.mk.inj (Except.ok.inj hc)
      exact .field i name v

/-- A command that fails leaves the session as it was, and one that does not changes it. -/
theorem step_cases (s : Session) (c : Command) :
    (∃ fault, (s.step c).1.outcome = .error fault ∧ (s.step c).2 = s)
      ∨ ∃ reply, (s.step c).1.outcome = .ok reply
          ∧ (s.carryOut c).outcome = .ok (reply, (s.step c).2) := by
  unfold step
  rcases h : s.carryOut c with ⟨es, fault | ⟨reply, s'⟩⟩
  · exact .inl ⟨fault, rfl, rfl⟩
  · exact .inr ⟨reply, rfl, rfl⟩

/-- **A command that fails changes nothing.** -/
theorem step_of_error {s : Session} {c : Command} {fault : Fault}
    (h : (s.step c).1.outcome = .error fault) : (s.step c).2 = s := by
  rcases s.step_cases c with ⟨_, _, same⟩ | ⟨reply, hreply, _⟩
  · exact same
  · rw [hreply] at h
    cases h

theorem Sound.step_changes {s : Session} (h : s.Sound) (c : Command) :
    s.Changes c (s.step c).2 := by
  rcases s.step_cases c with ⟨_, _, same⟩ | ⟨reply, _, hc⟩
  · rw [same]
    exact .nothing c
  · exact h.carryOut_changes hc

/-! ## §3. The invariant. -/

/-- Changing a field leaves the number of the record. -/
theorem id_setField (r : Record) (name : String) (v : Value) : (r.setField name v).id = r.id := by
  unfold Record.setField
  split <;> rfl

theorem map_id_modify (records : List Record) (i : Nat) (name : String) (v : Value) :
    (records.modify i (·.setField name v)).map Record.id = records.map Record.id := by
  refine List.ext_getElem? fun j => ?_
  rw [List.getElem?_map, List.getElem?_map, List.getElem?_modify]
  cases records[j]? with
  | none => rfl
  | some r =>
      show some (if i = j then r.setField name v else r).id = some r.id
      split
      · rw [id_setField]
      · rfl

/-- **Each of the changes keeps a session sound.** -/
theorem Changes.sound {s s' : Session} {c : Command} (h : s.Changes c s') (sound : s.Sound) :
    s'.Sound := by
  obtain ⟨numbered, listed, once⟩ := sound
  cases h with
  | nothing => exact ⟨numbered, listed, once⟩
  | list c sub =>
      obtain ⟨_, perm, sublist⟩ := sub
      exact ⟨numbered, fun n hn => listed n (sublist.subset (perm.mem_iff.mpr hn)),
        perm.nodup_iff.mp (once.sublist sublist)⟩
  | stored => exact ⟨numbered, listed, once⟩
  | sorter => exact ⟨numbered, listed, once⟩
  | push body =>
      refine ⟨?_, fun n hn => ?_, ?_⟩
      · show (s.records ++ [_]).map Record.id = List.range (s.records ++ [_]).length
        rw [List.map_append, numbered, List.length_append]
        exact List.range_succ.symm
      · show n < (s.records ++ [_]).length
        rw [List.length_append]
        rcases List.mem_append.mp hn with old | new
        · exact Nat.lt_succ_of_lt (listed n old)
        · rw [List.mem_singleton.mp new]
          exact Nat.lt_succ_self _
      · -- the new number is not in the list, whose numbers are all less
        refine List.nodup_append.mpr ⟨once, List.nodup_singleton _, ?_⟩
        intro n hn m hm
        rw [List.mem_singleton.mp hm]
        exact Nat.ne_of_lt (listed n hn)
  | field i name v =>
      have length := List.length_modify (·.setField name v) s.records i
      refine ⟨?_, fun n hn => ?_, once⟩
      · show (s.records.modify i (·.setField name v)).map Record.id = List.range _
        rw [map_id_modify, numbered, length]
      · show n < (s.records.modify i (·.setField name v)).length
        rw [length]
        exact listed n hn

/-- Only creating records makes them more. -/
theorem Changes.length_records {s s' : Session} {c : Command} (h : s.Changes c s')
    (other : c.isPush = false) : s'.records.length = s.records.length := by
  cases h with
  | nothing | list | stored | sorter => rfl
  | push body => cases other
  | field i name v => exact List.length_modify _ _ _

/-- A session begins soundly. -/
theorem start_sound (sorter : BoundSorter) (bodies : List RecordBody) :
    (start sorter bodies).Sound := by
  have numbers : ∀ (bodies : List RecordBody) (n : Nat),
      (number n bodies).map Record.id = List.range' n bodies.length := by
    intro bodies
    induction bodies with
    | nil => exact fun _ => rfl
    | cons body bodies ih => exact fun n => congrArg (n :: ·) (ih (n + 1))
  have ids : (number 0 bodies).map Record.id = List.range bodies.length :=
    (numbers bodies 0).trans List.range_eq_range'.symm
  have length : (number 0 bodies).length = bodies.length := by
    rw [← List.length_map Record.id, ids, List.length_range]
  refine ⟨?_, fun n hn => ?_, List.nodup_range⟩
  · show (number 0 bodies).map Record.id = List.range (number 0 bodies).length
    rw [ids, length]
  · show n < (number 0 bodies).length
    rw [length]
    exact List.mem_range.mp hn

/-! ## §4. Runs of commands. -/

/-- A session after some commands. -/
def after (s : Session) : List Command → Session
  | [] => s
  | c :: cs => (s.step c).2.after cs

/-- Those of some commands that do not fail when it is their turn. -/
def succeeding (s : Session) : List Command → List Command
  | [] => []
  | c :: cs =>
    match (s.step c).1.outcome with
    | .ok _ => c :: (s.step c).2.succeeding cs
    | .error _ => s.succeeding cs

/-- Commands keep a session sound. -/
theorem after_sound {s : Session} (h : s.Sound) (cs : List Command) : (s.after cs).Sound := by
  induction cs generalizing s with
  | nil => exact h
  | cons c cs ih => exact ih ((h.step_changes c).sound h)

/-- **Every session is sound**, whatever has been done in it. -/
theorem after_start_sound (sorter : BoundSorter) (bodies : List RecordBody) (cs : List Command) :
    ((start sorter bodies).after cs).Sound :=
  after_sound (start_sound sorter bodies) cs

/-- **Commands that fail might as well have been left out.** -/
theorem after_succeeding (s : Session) (cs : List Command) :
    s.after (s.succeeding cs) = s.after cs := by
  induction cs generalizing s with
  | nil => rfl
  | cons c cs ih =>
      unfold succeeding
      split
      · exact ih (s.step c).2
      · next fault failed =>
          rw [ih s]
          show s.after cs = (s.step c).2.after cs
          rw [step_of_error failed]

/-- There is no eighth number to remove, so the list is only reversed. -/
example : ((start (BoundSorter.ofConfig {}) [.object [], .object []]).after
    [.pop (.int 7), .reverse]).list = [1, 0] := by
  rfl

theorem length_records_step {s : Session} (h : s.Sound) (c : Command) :
    (s.step c).2.records.length = s.records.length + if c.isPush = true then 1 else 0 := by
  cases c with
  | push body => exact List.length_append
  | _ => exact (h.step_changes _).length_records rfl

/-- **There are as many records as have been created.** -/
theorem length_records_after {s : Session} (h : s.Sound) (cs : List Command) :
    (s.after cs).records.length = s.records.length + cs.countP Command.isPush := by
  induction cs generalizing s with
  | nil => rfl
  | cons c cs ih =>
      show ((s.step c).2.after cs).records.length = _
      rw [ih ((h.step_changes c).sound h), length_records_step h, List.countP_cons]
      omega

/-- **A sort in any session names the numbers of its list**, and keeps them if it is told to. -/
theorem sort_after {s : Session} (h : s.Sound) (cs : List Command) (order : SortOrder)
    {reply : Reply} (hreply : ((s.after cs).step (.sort order)).1.outcome = .ok reply) :
    ∃ numbers, reply = .sorted numbers ∧ numbers.Perm (s.after cs).list
      ∧ ((s.after cs).step (.sort order)).2.list
        = if order.keep = true then numbers else (s.after cs).list := by
  rcases (s.after cs).step_cases (.sort order) with ⟨fault, failed, _⟩ | ⟨reply', hreply', hc⟩
  · rw [failed] at hreply
    cases hreply
  · obtain rfl := Except.ok.inj (hreply'.symm.trans hreply)
    obtain ⟨numbers, hnumbers, hc⟩ := Traced.outcome_bind_eq_ok hc
    obtain ⟨rfl, changed⟩ := Prod.mk.inj (Except.ok.inj hc)
    refine ⟨numbers, rfl, (after_sound h cs).sortNumbers_perm hnumbers, ?_⟩
    rw [← changed]
    split <;> rfl

/-! ## §5. Settings. -/

/-- A session with other settings, and all else as it was. -/
def withSettings (s : Session) (settings : Settings) : Session :=
  { s with sorter := { s.sorter with settings } }

theorem step_settings (s : Session) {c : Command} (h : c.isSetting = true) :
    ∃ settings, (s.step c).2 = s.withSettings settings := by
  rcases s.step_cases c with ⟨_, _, same⟩ | ⟨reply, _, hc⟩
  · exact ⟨s.sorter.settings, same⟩
  · cases c with
    | setSetting name v =>
        obtain ⟨settings, _, hc⟩ := Traced.outcome_bind_eq_ok hc
        exact ⟨settings, (Prod.mk.inj (Except.ok.inj hc)).2.symm⟩
    | getSettings => exact ⟨s.sorter.settings, rfl⟩
    | _ => cases h

/-- Commands about settings change the settings only. -/
theorem after_settings (s : Session) {cs : List Command} (h : ∀ c ∈ cs, c.isSetting = true) :
    ∃ settings, s.after cs = s.withSettings settings := by
  induction cs generalizing s with
  | nil => exact ⟨s.sorter.settings, rfl⟩
  | cons c cs ih =>
      obtain ⟨hc, hcs⟩ := List.forall_mem_cons.mp h
      obtain ⟨settings, one⟩ := s.step_settings hc
      obtain ⟨settings', all⟩ := ih (s.step c).2 hcs
      refine ⟨settings', ?_⟩
      show (s.step c).2.after cs = _
      rw [all, one]
      rfl

/-- A sort that is given something to sort by does not look at the settings. -/
theorem sortNumbers_withSettings (s : Session) (settings : Settings) (bySorter : Bool)
    {order : SortOrder}
    (given : (order.request.criterion s.stored).outcome ≠ .ok (.written .null)) :
    (s.withSettings settings).sortNumbers bySorter order = s.sortNumbers bySorter order := by
  unfold sortNumbers
  show (order.request.criterion s.stored).mapEvents Event.log >>= _
    = (order.request.criterion s.stored).mapEvents Event.log >>= _
  cases hc : ((order.request.criterion s.stored).mapEvents Event.log).outcome with
  | error fault => rw [Traced.bind_error hc, Traced.bind_error hc]
  | ok criterion =>
      have some : criterion ≠ .written .null := fun none => given (none ▸ hc)
      rw [Traced.bind_ok hc, Traced.bind_ok hc]
      dsimp only
      rw [BoundSorter.sort_of_criterion _ _ _ some, BoundSorter.sort_of_criterion _ _ _ some]
      rfl

/-- **Settings decide what stands in for a missing expression, and nothing else.** -/
theorem sortNumbers_after_settings (s : Session) {cs : List Command}
    (h : ∀ c ∈ cs, c.isSetting = true) (bySorter : Bool) {order : SortOrder}
    (given : (order.request.criterion s.stored).outcome ≠ .ok (.written .null)) :
    (s.after cs).sortNumbers bySorter order = s.sortNumbers bySorter order := by
  obtain ⟨settings, only⟩ := s.after_settings h
  rw [only, s.sortNumbers_withSettings settings bySorter given]

end Session

end OrderBy
