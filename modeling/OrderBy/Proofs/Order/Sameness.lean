/-
  OrderBy.Proofs.Order.Sameness
  ─────────────────────────────
  **SAMENESS IS SYMMETRIC ON PROPER VALUES.**

  Whether two sequences are compared further depends on which of their items are
  the same, and the inclusion of sets on which members are.  Sameness is defined
  from the left: every member of the first set must be one of the second, and the
  sizes must agree.  It is transitive on all values:

      same a b,  same b c   →   same a c

  It is symmetric where a set has no member twice and a dictionary no key twice,
  which is what makes equal sizes count.  Values with that property are proper; in
  a proper value, moreover, no probe fails.
-/
import OrderBy.Value
import Mathlib.Data.List.Forall2

namespace OrderBy.Value

/-! ## §1. Induction over a value and its parts. -/

/-- Values that have no parts. -/
def isFlat : Value → Bool
  | list _ | tuple _ | set _ | dict _ | probe _ _ _ _ => false
  | _ => true

/-- What holds of a value if it holds of all its parts holds of every value. -/
@[elab_as_elim]
theorem inductionOn {P : Value → Prop} (flat : ∀ a, a.isFlat = true → P a)
    (list : ∀ xs, (∀ x ∈ xs, P x) → P (.list xs))
    (tuple : ∀ xs, (∀ x ∈ xs, P x) → P (.tuple xs))
    (set : ∀ xs, (∀ x ∈ xs, P x) → P (.set xs))
    (dict : ∀ es, (∀ e ∈ es, P e.1 ∧ P e.2) → P (.dict es))
    (probe : ∀ id label a raises, P a → P (.probe id label a raises)) (a : Value) : P a := by
  refine @Value.rec P (fun xs => ∀ x ∈ xs, P x) (fun es => ∀ e ∈ es, P e.1 ∧ P e.2)
    (fun e => P e.1 ∧ P e.2) ?null ?bool ?int ?float ?text ?bytes list tuple set dict ?direction
    ?key (fun id label a raises ha => probe id label a raises ha) ?object ?nil ?cons ?nilEntries
    ?consEntries (fun _ _ hk hv => ⟨hk, hv⟩) a
  case nil | nilEntries => exact List.forall_mem_nil _
  case cons | consEntries =>
    intro x xs hx hxs
    exact List.forall_mem_cons.mpr ⟨hx, hxs⟩
  all_goals
    intros
    exact flat _ rfl

/-! ## §2. What tells values apart. -/

/-- What a value that is looked at as a whole is told apart by. -/
inductive Token where
  | null
  | scalar (s : Scalar)
  | key (k : SortKey)
  | probe (id : Identity)
  | object (className : String) (id : Nat)
  deriving DecidableEq

/-- The token of a value, if it has one: containers are told apart by their parts. -/
def token? : Value → Option Token
  | list _ | tuple _ | set _ | dict _ => none
  | null => some .null
  | key k => some (.key k)
  | probe id _ _ _ => some (.probe id)
  | object className id => some (.object className id)
  | a => a.scalar?.map .scalar

theorem token_of_isFlat {a : Value} (h : a.isFlat = true) : ∃ t, a.token? = some t := by
  cases a <;> first | exact ⟨_, rfl⟩ | cases h

/-- A value with a token is the same as the values with that token. -/
theorem same_of_token {a b : Value} {t : Token} (h : a.token? = some t) :
    same a b = true ↔ a.token? = b.token? := by
  cases a <;> cases h <;> cases b <;> simp [same, token?, scalar?]

/-- What is looked at as a whole is the same from either side. -/
theorem same_symm_of_token {a b : Value} {t : Token} (h : a.token? = some t)
    (hab : same a b = true) : same b a = true := by
  have tokens := (same_of_token h).mp hab
  exact (same_of_token (tokens ▸ h)).mpr tokens.symm

/-- Sequences are the same if their items are, in pairs. -/
theorem sameItems_iff : ∀ {xs ys : List Value},
    sameItems xs ys = true ↔ List.Forall₂ (fun x y => same x y = true) xs ys
  | [], [] => ⟨fun _ => .nil, fun _ => rfl⟩
  | [], _ :: _ => ⟨nofun, nofun⟩
  | _ :: _, [] => ⟨nofun, nofun⟩
  | x :: xs, y :: ys => by
      rw [List.forall₂_cons, ← sameItems_iff, ← Bool.and_eq_true]
      rfl

theorem membersOf_iff : ∀ {xs ys : List Value},
    membersOf xs ys = true ↔ ∀ x ∈ xs, ∃ y ∈ ys, same x y = true
  | [], ys => ⟨fun _ => List.forall_mem_nil _, fun _ => rfl⟩
  | x :: xs, ys => by
      rw [List.forall_mem_cons, ← membersOf_iff, ← List.any_eq_true, ← Bool.and_eq_true]
      rfl

theorem sameEntry_iff {e f : Value × Value} :
    sameEntry e f = true ↔ same e.1 f.1 = true ∧ same e.2 f.2 = true := by
  obtain ⟨k, v⟩ := e
  obtain ⟨l, w⟩ := f
  rw [← Bool.and_eq_true]
  rfl

theorem entriesOf_iff : ∀ {es fs : List (Value × Value)},
    entriesOf es fs = true ↔ ∀ e ∈ es, ∃ f ∈ fs, same e.1 f.1 = true ∧ same e.2 f.2 = true
  | [], fs => ⟨fun _ => List.forall_mem_nil _, fun _ => rfl⟩
  | e :: es, fs => by
      have head : (∃ f ∈ fs, same e.1 f.1 = true ∧ same e.2 f.2 = true)
          ↔ fs.any (fun f => sameEntry e f) = true := by
        rw [List.any_eq_true]
        exact exists_congr (fun f => and_congr_right (fun _ => sameEntry_iff.symm))
      rw [List.forall_mem_cons, ← entriesOf_iff, head, ← Bool.and_eq_true]
      rfl

/-! ## §3. Transitivity. -/

/-- Sameness of items is transitive where the items of the first sequence have a
transitive sameness. -/
theorem forall₂_same_trans {xs ys zs : List Value}
    (h : ∀ x ∈ xs, ∀ y z, same x y = true → same y z = true → same x z = true)
    (hxy : List.Forall₂ (fun x y => same x y = true) xs ys)
    (hyz : List.Forall₂ (fun x y => same x y = true) ys zs) :
    List.Forall₂ (fun x y => same x y = true) xs zs := by
  induction hxy generalizing zs with
  | nil =>
      cases hyz
      exact .nil
  | cons hx _ ih =>
      cases hyz with
      | cons hy hys =>
          exact .cons (h _ List.mem_cons_self _ _ hx hy)
            (ih (fun x hx => h x (List.mem_cons_of_mem _ hx)) hys)

/-- So is inclusion, where the members of the first set have a transitive sameness. -/
theorem forall_exists_same_trans {xs ys zs : List Value}
    (h : ∀ x ∈ xs, ∀ y z, same x y = true → same y z = true → same x z = true)
    (hxy : ∀ x ∈ xs, ∃ y ∈ ys, same x y = true) (hyz : ∀ y ∈ ys, ∃ z ∈ zs, same y z = true) :
    ∀ x ∈ xs, ∃ z ∈ zs, same x z = true := by
  intro x hx
  obtain ⟨y, hy, same_xy⟩ := hxy x hx
  obtain ⟨z, hz, same_yz⟩ := hyz y hy
  exact ⟨z, hz, h x hx y z same_xy same_yz⟩

theorem same_set_iff {xs ys : List Value} :
    same (set xs) (set ys) = true
      ↔ xs.length = ys.length ∧ ∀ x ∈ xs, ∃ y ∈ ys, same x y = true := by
  rw [← membersOf_iff]
  show (xs.length == ys.length && membersOf xs ys) = true ↔ _
  rw [Bool.and_eq_true, beq_iff_eq]

theorem same_dict_iff {es fs : List (Value × Value)} :
    same (dict es) (dict fs) = true
      ↔ es.length = fs.length ∧ ∀ e ∈ es, ∃ f ∈ fs, same e.1 f.1 = true ∧ same e.2 f.2 = true := by
  rw [← entriesOf_iff]
  show (es.length == fs.length && entriesOf es fs) = true ↔ _
  rw [Bool.and_eq_true, beq_iff_eq]

/-- **Sameness is transitive.** -/
theorem same_trans {a b c : Value} (hab : same a b = true) (hbc : same b c = true) :
    same a c = true := by
  -- what is looked at as a whole hands its token on
  have whole : ∀ {a b c : Value} {t : Token}, a.token? = some t → same a b = true →
      same b c = true → same a c = true := by
    intro a b c t ht hab hbc
    have tokens := (same_of_token ht).mp hab
    rw [same_of_token ht, tokens]
    exact (same_of_token (tokens ▸ ht)).mp hbc
  induction a using inductionOn generalizing b c with
  | flat a flat =>
      obtain ⟨t, ht⟩ := token_of_isFlat flat
      exact whole ht hab hbc
  | probe id label a raises _ => exact whole rfl hab hbc
  | list xs ih =>
      cases b <;> try cases hab
      cases c <;> try cases hbc
      exact sameItems_iff.mpr
        (forall₂_same_trans (fun x hx y z => ih x hx) (sameItems_iff.mp hab) (sameItems_iff.mp hbc))
  | tuple xs ih =>
      cases b <;> try cases hab
      cases c <;> try cases hbc
      exact sameItems_iff.mpr
        (forall₂_same_trans (fun x hx y z => ih x hx) (sameItems_iff.mp hab) (sameItems_iff.mp hbc))
  | set xs ih =>
      cases b <;> try cases hab
      cases c <;> try cases hbc
      obtain ⟨size, members⟩ := same_set_iff.mp hab
      obtain ⟨size', members'⟩ := same_set_iff.mp hbc
      exact same_set_iff.mpr ⟨size.trans size',
        forall_exists_same_trans (fun x hx y z => ih x hx) members members'⟩
  | dict es ih =>
      cases b <;> try cases hab
      cases c <;> try cases hbc
      obtain ⟨size, entries⟩ := same_dict_iff.mp hab
      obtain ⟨size', entries'⟩ := same_dict_iff.mp hbc
      refine same_dict_iff.mpr ⟨size.trans size', fun e he => ?_⟩
      obtain ⟨f, hf, key, value⟩ := entries e he
      obtain ⟨g, hg, key', value'⟩ := entries' f hf
      exact ⟨g, hg, (ih e he).1 key key', (ih e he).2 value value'⟩

/-! ## §4. Proper values. -/

/-- Whether no two values of a list are the same. -/
def allDifferent (xs : List Value) : Bool := decide (xs.Pairwise (fun x y => same x y = false))

mutual

/-- Whether every set in a value has its members once, every dictionary its keys
once, and no probe fails. -/
def isProper : Value → Bool
  | list xs | tuple xs => areProper xs
  | set xs => areProper xs && allDifferent xs
  | dict es => areProperEntries es && allDifferent (es.map Prod.fst)
  | probe _ _ a raises => raises.isNone && isProper a
  | _ => true
termination_by structural a => a

/-- The same of all values of a list. -/
def areProper : List Value → Bool
  | [] => true
  | x :: xs => isProper x && areProper xs
termination_by structural xs => xs

/-- The same of all keys and values of some entries. -/
def areProperEntries : List (Value × Value) → Bool
  | [] => true
  | e :: es => isProperEntry e && areProperEntries es
termination_by structural es => es

/-- The same of the key and the value of an entry. -/
def isProperEntry : Value × Value → Bool
  | (k, v) => isProper k && isProper v
termination_by structural e => e

end

theorem areProper_iff : ∀ {xs : List Value}, areProper xs = true ↔ ∀ x ∈ xs, isProper x = true
  | [] => ⟨fun _ => List.forall_mem_nil _, fun _ => rfl⟩
  | x :: xs => by
      rw [List.forall_mem_cons, ← areProper_iff, ← Bool.and_eq_true]
      rfl

theorem areProperEntries_iff : ∀ {es : List (Value × Value)},
    areProperEntries es = true ↔ ∀ e ∈ es, isProper e.1 = true ∧ isProper e.2 = true
  | [] => ⟨fun _ => List.forall_mem_nil _, fun _ => rfl⟩
  | (k, v) :: es => by
      rw [List.forall_mem_cons, ← areProperEntries_iff, ← Bool.and_eq_true, ← Bool.and_eq_true]
      rfl

theorem allDifferent_iff {xs : List Value} :
    allDifferent xs = true ↔ xs.Pairwise (fun x y => same x y = false) :=
  decide_eq_true_iff

theorem isProper_set_iff {xs : List Value} :
    isProper (set xs) = true
      ↔ (∀ x ∈ xs, isProper x = true) ∧ xs.Pairwise (fun x y => same x y = false) := by
  rw [← areProper_iff, ← allDifferent_iff, ← Bool.and_eq_true]
  rfl

theorem isProper_dict_iff {es : List (Value × Value)} :
    isProper (dict es) = true
      ↔ (∀ e ∈ es, isProper e.1 = true ∧ isProper e.2 = true)
        ∧ (es.map Prod.fst).Pairwise (fun k l => same k l = false) := by
  rw [← areProperEntries_iff, ← allDifferent_iff, ← Bool.and_eq_true]
  rfl

theorem isProper_probe_iff {id : Identity} {label : String} {a : Value} {raises : Option Raised} :
    isProper (probe id label a raises) = true ↔ raises = none ∧ isProper a = true := by
  rw [← Option.isNone_iff_eq_none, ← Bool.and_eq_true]
  rfl

/-! ## §5. Symmetry. -/

/-- Where every item has a partner, no two items share one and there are as many
partners as items, every partner has an item. -/
theorem exists_partner {α β : Type} {R : α → β → Prop} :
    ∀ {xs : List α} {ys : List β}, xs.length = ys.length →
      xs.Pairwise (fun x x' => ∀ y ∈ ys, R x y → ¬ R x' y) → (∀ x ∈ xs, ∃ y ∈ ys, R x y) →
      ∀ y ∈ ys, ∃ x ∈ xs, R x y
  | [], [], _, _, _ => List.forall_mem_nil _
  | x :: xs, ys, size, apart, partners => by
      obtain ⟨apart_x, apart_xs⟩ := List.pairwise_cons.mp apart
      obtain ⟨y, hy, hxy⟩ := partners x List.mem_cons_self
      obtain ⟨before, after, rfl⟩ := List.append_of_mem hy
      have among : ∀ {z}, z ∈ before ++ y :: after ↔ z = y ∨ z ∈ before ++ after := by
        intro z
        rw [List.perm_middle.mem_iff, List.mem_cons]
      -- without the partner of the first item, the others still have theirs
      have others : ∀ x' ∈ xs, ∃ y' ∈ before ++ after, R x' y' := by
        intro x' hx'
        obtain ⟨y', hy', hxy'⟩ := partners x' (List.mem_cons_of_mem x hx')
        rcases among.mp hy' with rfl | hy'
        · exact absurd hxy' (apart_x x' hx' y' hy hxy)
        · exact ⟨y', hy', hxy'⟩
      have sizes : xs.length = (before ++ after).length := by
        simp only [List.length_append, List.length_cons] at size ⊢
        omega
      have apart' : xs.Pairwise (fun x x' => ∀ y ∈ before ++ after, R x y → ¬ R x' y) :=
        apart_xs.imp (fun h z hz => h z (among.mpr (.inr hz)))
      intro z hz
      rcases among.mp hz with rfl | hz
      · exact ⟨x, List.mem_cons_self, hxy⟩
      · obtain ⟨x', hx', hxz⟩ := exists_partner sizes apart' others z hz
        exact ⟨x', List.mem_cons_of_mem x hx', hxz⟩

/-- Two values that are not the same are not both the same as a third, if one of these
can be turned round. -/
theorem not_same_of_different {x x' y : Value} (different : same x x' = false)
    (turn : same x' y = true → same y x' = true) (h : same x y = true) : ¬ same x' y = true := by
  intro h'
  have shared := same_trans h (turn h')
  rw [different] at shared
  exact Bool.false_ne_true shared

/-- Sequences are the same both ways round if their items are. -/
theorem sameItems_symm {xs ys : List Value}
    (turn : ∀ x ∈ xs, ∀ y ∈ ys, same x y = true → same y x = true)
    (h : sameItems xs ys = true) : sameItems ys xs = true := by
  rw [sameItems_iff] at h ⊢
  induction h with
  | nil => exact .nil
  | cons hxy _ ih =>
      exact .cons (turn _ List.mem_cons_self _ List.mem_cons_self hxy)
        (ih (fun x hx y hy => turn x (List.mem_cons_of_mem _ hx) y (List.mem_cons_of_mem _ hy)))

/-- **Sameness is symmetric on proper values.** -/
theorem same_symm {a b : Value} (ha : a.isProper = true) (hb : b.isProper = true)
    (h : same a b = true) : same b a = true := by
  induction a using inductionOn generalizing b with
  | flat a flat =>
      obtain ⟨t, ht⟩ := token_of_isFlat flat
      exact same_symm_of_token ht h
  | probe id label a raises _ => exact same_symm_of_token rfl h
  | list xs ih =>
      cases b <;> try cases h
      have hxs := areProper_iff.mp ha
      have hys := areProper_iff.mp hb
      exact sameItems_symm (fun x hx y hy => ih x hx (hxs x hx) (hys y hy)) h
  | tuple xs ih =>
      cases b <;> try cases h
      have hxs := areProper_iff.mp ha
      have hys := areProper_iff.mp hb
      exact sameItems_symm (fun x hx y hy => ih x hx (hxs x hx) (hys y hy)) h
  | set xs ih =>
      cases b <;> try cases h
      rename_i ys
      obtain ⟨hxs, different⟩ := isProper_set_iff.mp ha
      obtain ⟨hys, _⟩ := isProper_set_iff.mp hb
      obtain ⟨size, members⟩ := same_set_iff.mp h
      have turn : ∀ x ∈ xs, ∀ y ∈ ys, same x y = true → same y x = true :=
        fun x hx y hy => ih x hx (hxs x hx) (hys y hy)
      have apart := different.imp_of_mem (fun {x x'} _ hx' hne =>
        fun y hy => not_same_of_different hne (turn x' hx' y hy))
      refine same_set_iff.mpr ⟨size.symm, fun y hy => ?_⟩
      obtain ⟨x, hx, hxy⟩ := exists_partner size apart members y hy
      exact ⟨x, hx, turn x hx y hy hxy⟩
  | dict es ih =>
      cases b <;> try cases h
      rename_i fs
      obtain ⟨hes, different⟩ := isProper_dict_iff.mp ha
      obtain ⟨hfs, _⟩ := isProper_dict_iff.mp hb
      obtain ⟨size, entries⟩ := same_dict_iff.mp h
      have turn : ∀ e ∈ es, ∀ f ∈ fs, same e.1 f.1 = true → same f.1 e.1 = true :=
        fun e he f hf => (ih e he).1 (hes e he).1 (hfs f hf).1
      -- entries are partnered with their values, but told apart by their keys
      have apart := (List.pairwise_map.mp different).imp_of_mem (fun {e e'} _ he' hne =>
        fun f hf (h : same e.1 f.1 = true ∧ same e.2 f.2 = true)
          (h' : same e'.1 f.1 = true ∧ same e'.2 f.2 = true) =>
            not_same_of_different hne (turn e' he' f hf) h.1 h'.1)
      refine same_dict_iff.mpr ⟨size.symm, fun f hf => ?_⟩
      obtain ⟨e, he, key, value⟩ := exists_partner size apart entries f hf
      exact ⟨e, he, turn e he f hf key, (ih e he).2 (hes e he).2 (hfs f hf).2 value⟩

/-- On proper values it does not matter from where sameness is looked at. -/
theorem same_comm {a b : Value} (ha : a.isProper = true) (hb : b.isProper = true) :
    same a b = same b a := by
  rw [Bool.eq_iff_iff]
  exact ⟨same_symm ha hb, same_symm hb ha⟩

/-! ## §6. What is built by inserting is proper. -/

theorem mem_insertMember {xs : List Value} {x y : Value} (h : y ∈ insertMember xs x) :
    y ∈ xs ∨ y = x := by
  unfold insertMember at h
  split at h
  · exact .inl h
  · exact (List.mem_append.mp h).imp_right List.mem_singleton.mp

/-- What is inserted is there already or differs from all that is there. -/
theorem pairwise_insertMember {xs : List Value} {x : Value}
    (hxs : ∀ y ∈ xs, y.isProper = true) (hx : x.isProper = true)
    (different : xs.Pairwise (fun y z => same y z = false)) :
    (insertMember xs x).Pairwise (fun y z => same y z = false) := by
  unfold insertMember
  split
  · exact different
  · next fresh =>
      refine List.pairwise_append.mpr ⟨different, List.pairwise_singleton _ _, fun y hy z hz => ?_⟩
      obtain rfl := List.mem_singleton.mp hz
      -- the new member is compared with the old ones from the left
      rw [List.any_eq_true, not_exists] at fresh
      rw [same_comm (hxs y hy) hx, ← Bool.not_eq_true]
      exact fun h => fresh y ⟨hy, h⟩

/-- **A set stays proper when a member is inserted.** -/
theorem isProper_insertMember {xs : List Value} {x : Value} (hset : (set xs).isProper = true)
    (hx : x.isProper = true) : (set (insertMember xs x)).isProper = true := by
  obtain ⟨hxs, different⟩ := isProper_set_iff.mp hset
  refine isProper_set_iff.mpr ⟨fun y hy => ?_, pairwise_insertMember hxs hx different⟩
  rcases mem_insertMember hy with hy | rfl
  · exact hxs y hy
  · exact hx

/-- Putting an entry inserts its key among the keys. -/
theorem keys_putEntry (k v : Value) : ∀ es : List (Value × Value),
    (putEntry k v es).map Prod.fst = insertMember (es.map Prod.fst) k
  | [] => rfl
  | (l, w) :: es => by
      have rest := keys_putEntry k v es
      unfold insertMember at rest ⊢
      rw [putEntry, List.map_cons, List.any_cons]
      cases h : same k l with
      | true => rfl
      | false =>
          rw [if_neg Bool.false_ne_true, Bool.false_or, List.map_cons, rest]
          split <;> rfl

/-- An entry after one was put was there before or has the new value. -/
theorem mem_putEntry {k v : Value} {e : Value × Value} :
    ∀ {es : List (Value × Value)}, e ∈ putEntry k v es → e ∈ es ∨ e.2 = v
  | [], h => .inr (congrArg Prod.snd (List.mem_singleton.mp h))
  | (l, w) :: es, h => by
      unfold putEntry at h
      split at h
      · rcases List.mem_cons.mp h with rfl | h
        · exact .inr rfl
        · exact .inl (List.mem_cons_of_mem _ h)
      · rcases List.mem_cons.mp h with rfl | h
        · exact .inl List.mem_cons_self
        · exact (mem_putEntry h).imp_left (List.mem_cons_of_mem _)

/-- **A dictionary stays proper when an entry is put.** -/
theorem isProper_putEntry {es : List (Value × Value)} {k v : Value}
    (hdict : (dict es).isProper = true) (hk : k.isProper = true) (hv : v.isProper = true) :
    (dict (putEntry k v es)).isProper = true := by
  obtain ⟨hes, different⟩ := isProper_dict_iff.mp hdict
  have hkeys : ∀ l ∈ es.map Prod.fst, l.isProper = true := by
    intro l hl
    obtain ⟨e, he, rfl⟩ := List.mem_map.mp hl
    exact (hes e he).1
  refine isProper_dict_iff.mpr ⟨fun e he => ⟨?_, ?_⟩, ?_⟩
  · have key := List.mem_map_of_mem (f := Prod.fst) he
    rw [keys_putEntry] at key
    rcases mem_insertMember key with key | key
    · exact hkeys _ key
    · exact key ▸ hk
  · rcases mem_putEntry he with he | value
    · exact (hes e he).2
    · exact value ▸ hv
  · rw [keys_putEntry]
    exact pairwise_insertMember hkeys hk different

/-- **The dictionary of some proper keys and values is proper.** -/
theorem isProper_dictOf {es : List (Value × Value)}
    (h : ∀ e ∈ es, e.1.isProper = true ∧ e.2.isProper = true) : (dictOf es).isProper = true := by
  have put : ∀ (es : List (Value × Value)) {made : List (Value × Value)},
      (∀ e ∈ es, e.1.isProper = true ∧ e.2.isProper = true) → (dict made).isProper = true →
      (dict (es.foldl (fun d e => putEntry e.1 e.2 d) made)).isProper = true := by
    intro es
    induction es with
    | nil => exact fun _ hmade => hmade
    | cons e es ih =>
        intro made hes hmade
        obtain ⟨he, hes⟩ := List.forall_mem_cons.mp hes
        exact ih hes (isProper_putEntry hmade he.1 he.2)
  exact put es h (isProper_dict_iff.mpr ⟨List.forall_mem_nil _, .nil⟩)

end OrderBy.Value
