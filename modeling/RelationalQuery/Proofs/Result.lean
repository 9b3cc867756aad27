import RelationalQuery.Dict

/-!
# Results that may be errors

What is known of the parts of a computation that ends with a result, with or without a state.
-/

namespace RelationalQuery

variable {ε σ α β : Type}

/-- A sequence ends with a result if both of its parts do. -/
theorem bind_eq_ok_iff {x : Except ε α} {f : α → Except ε β} {b : β} :
    x >>= f = .ok b ↔ ∃ a, x = .ok a ∧ f a = .ok b := by
  constructor
  · intro h
    cases x with
    | error e => cases h
    | ok a => exact ⟨a, rfl, h⟩
  · rintro ⟨a, rfl, h⟩
    exact h

/-- A sequence fails if its first part does, or its second part after the first. -/
theorem bind_eq_error_iff {x : Except ε α} {f : α → Except ε β} {error : ε} :
    x >>= f = .error error ↔ x = .error error ∨ ∃ a, x = .ok a ∧ f a = .error error := by
  constructor
  · intro h
    cases x with
    | error e => exact Or.inl (congrArg Except.error (Except.error.inj h))
    | ok a => exact Or.inr ⟨a, rfl, h⟩
  · rintro (rfl | ⟨a, rfl, h⟩)
    · rfl
    · exact h

/-- A result is handed to what follows. -/
theorem ok_bind (a : α) (f : α → Except ε β) : Except.ok a >>= f = f a := rfl

/-- After an error nothing follows. -/
theorem error_bind (error : ε) (f : α → Except ε β) : Except.error error >>= f = .error error := rfl

/-- An error is mapped to itself, whatever the function is. -/
theorem map_error (error : ε) (f : α → β) : f <$> (Except.error error : Except ε α) = .error error :=
  rfl

/-- A result is mapped if there is one. -/
theorem map_eq_ok_iff {x : Except ε α} {f : α → β} {b : β} :
    f <$> x = .ok b ↔ ∃ a, x = .ok a ∧ f a = b := by
  constructor
  · intro h
    cases x with
    | error e => cases h
    | ok a => exact ⟨a, rfl, Except.ok.inj h⟩
  · rintro ⟨a, rfl, rfl⟩
    rfl

/-- An error is mapped to itself. -/
theorem map_eq_error_iff {x : Except ε α} {f : α → β} {error : ε} :
    f <$> x = .error error ↔ x = .error error := by
  cases x <;> simp [Functor.map, Except.map]

/-- There is a mapped result if there is a result. -/
theorem exists_map_eq_ok_iff {x : Except ε α} {f : α → β} :
    (∃ b, f <$> x = .ok b) ↔ ∃ a, x = .ok a := by
  cases x <;> simp [Functor.map, Except.map]

/-- A result of two parts is there if both parts are. -/
theorem exists_both_eq_ok_iff {γ : Type} {x : Except ε α} {y : Except ε β} {f : α → β → γ} :
    (∃ c, (do let a ← x; let b ← y; return f a b) = .ok c) ↔
      (∃ a, x = .ok a) ∧ ∃ b, y = .ok b := by
  cases x with
  | error e => simp [bind, Except.bind]
  | ok a => cases y <;> simp [bind, Except.bind, pure, Except.pure]

/-- The results of a list are those of its entries, one by one. -/
theorem map_eq_of_mapM {f : α → Except ε β} {as : List α} {bs : List β}
    (h : as.mapM f = .ok bs) : as.map f = bs.map .ok := by
  induction as generalizing bs with
  | nil =>
    obtain rfl : [] = bs := Except.ok.inj h
    rfl
  | cons a as ih =>
    rw [List.mapM_cons, bind_eq_ok_iff] at h
    obtain ⟨first, hfirst, h⟩ := h
    rw [bind_eq_ok_iff] at h
    obtain ⟨rest, hrest, h⟩ := h
    obtain rfl : first :: rest = bs := Except.ok.inj h
    rw [List.map_cons, List.map_cons, hfirst, ih hrest]

/-- A list has as many results as entries. -/
theorem length_of_mapM {f : α → Except ε β} {as : List α} {bs : List β}
    (h : as.mapM f = .ok bs) : bs.length = as.length := by
  have hlength := congrArg List.length (map_eq_of_mapM h)
  rw [List.length_map, List.length_map] at hlength
  exact hlength.symm

/-- Only the empty list has no results. -/
theorem eq_nil_iff_of_mapM {f : α → Except ε β} {as : List α} {bs : List β}
    (h : as.mapM f = .ok bs) : bs = [] ↔ as = [] := by
  rw [← List.length_eq_zero_iff, length_of_mapM h, List.length_eq_zero_iff]

/-- What is read off the results of a list is read off its entries. -/
theorem map_eq_map_of_mapM {γ : Type} {f : α → Except ε β} {g : β → γ} {g' : α → γ}
    (hf : ∀ a b, f a = .ok b → g b = g' a) {as : List α} {bs : List β} (h : as.mapM f = .ok bs) :
    bs.map g = as.map g' := by
  have hresults := map_eq_of_mapM h
  clear h
  induction as generalizing bs with
  | nil => cases bs <;> first | rfl | cases hresults
  | cons a as ih =>
    cases bs with
    | nil => cases hresults
    | cons b bs =>
      obtain ⟨hfirst, hrest⟩ := List.cons_eq_cons.mp hresults
      rw [List.map_cons, List.map_cons, hf a b hfirst, ih hrest]

/-- Each result of a list comes from an entry of it. -/
theorem exists_of_mem_mapM {f : α → Except ε β} {as : List α} {bs : List β}
    (h : as.mapM f = .ok bs) {b : β} (hb : b ∈ bs) : ∃ a ∈ as, f a = .ok b := by
  have hmem : Except.ok b ∈ as.map f := map_eq_of_mapM h ▸ List.mem_map_of_mem hb
  exact List.mem_map.mp hmem

/-- Each entry of a list has a result in it. -/
theorem ok_of_mem_mapM {f : α → Except ε β} {as : List α} {bs : List β}
    (h : as.mapM f = .ok bs) {a : α} (ha : a ∈ as) : ∃ b ∈ bs, f a = .ok b := by
  have hmem : f a ∈ bs.map Except.ok := map_eq_of_mapM h ▸ List.mem_map_of_mem ha
  obtain ⟨b, hb, hf⟩ := List.mem_map.mp hmem
  exact ⟨b, hb, hf.symm⟩

/-- The result at an index is that of the entry there. -/
theorem exists_getElem?_of_mapM {f : α → Except ε β} {as : List α} {bs : List β}
    (h : as.mapM f = .ok bs) {i : Nat} {b : β} (hb : bs[i]? = some b) :
    ∃ a, as[i]? = some a ∧ f a = .ok b := by
  have hi : (as.map f)[i]? = some (.ok b) := by
    rw [map_eq_of_mapM h, List.getElem?_map, hb]
    rfl
  rw [List.getElem?_map] at hi
  exact Option.map_eq_some_iff.mp hi

/-- The entry at an index has its result there. -/
theorem getElem?_ok_of_mapM {f : α → Except ε β} {as : List α} {bs : List β}
    (h : as.mapM f = .ok bs) {i : Nat} {a : α} (ha : as[i]? = some a) :
    ∃ b, bs[i]? = some b ∧ f a = .ok b := by
  have hi : (bs.map Except.ok)[i]? = some (f a) := by
    rw [← map_eq_of_mapM h, List.getElem?_map, ha]
    rfl
  rw [List.getElem?_map] at hi
  obtain ⟨b, hb, hf⟩ := Option.map_eq_some_iff.mp hi
  exact ⟨b, hb, hf.symm⟩

/-- A list has results if each entry has one. -/
theorem exists_mapM_eq_ok {f : α → Except ε β} {as : List α} (h : ∀ a ∈ as, ∃ b, f a = .ok b) :
    ∃ bs, as.mapM f = .ok bs := by
  induction as with
  | nil => exact ⟨[], rfl⟩
  | cons a as ih =>
    obtain ⟨b, hb⟩ := h a List.mem_cons_self
    obtain ⟨bs, hbs⟩ := ih fun other hother => h other (List.mem_cons_of_mem a hother)
    refine ⟨b :: bs, ?_⟩
    rw [List.mapM_cons, hb, ok_bind, hbs]
    rfl

/-- A list has the results that each of its entries has. -/
theorem mapM_eq_ok_map {f : α → Except ε β} {g : α → β} {as : List α}
    (h : ∀ a ∈ as, f a = .ok (g a)) : as.mapM f = .ok (as.map g) := by
  induction as with
  | nil => rfl
  | cons a as ih =>
    obtain ⟨hfirst, hrest⟩ := List.forall_mem_cons.mp h
    rw [List.mapM_cons, hfirst, ok_bind, ih hrest]
    rfl

/-- A list has results where it is known of each entry when it has one, and which. -/
theorem mapM_eq_ok_iff {f : α → Except ε β} {p : α → Prop} {g : α → β}
    (hf : ∀ a b, f a = .ok b ↔ p a ∧ b = g a) {as : List α} {bs : List β} :
    as.mapM f = .ok bs ↔ (∀ a ∈ as, p a) ∧ bs = as.map g := by
  constructor
  · intro h
    refine ⟨fun a ha => ?_, ?_⟩
    · obtain ⟨b, -, hb⟩ := ok_of_mem_mapM h ha
      exact ((hf a b).mp hb).1
    · have hmap := map_eq_map_of_mapM (g := id) (fun a b hb => ((hf a b).mp hb).2) h
      rwa [List.map_id] at hmap
  · rintro ⟨hall, rfl⟩
    obtain ⟨bs, hbs⟩ := exists_mapM_eq_ok fun a ha => ⟨g a, (hf a (g a)).mpr ⟨hall a ha, rfl⟩⟩
    have hmap := map_eq_map_of_mapM (g := id) (fun a b hb => ((hf a b).mp hb).2) hbs
    rw [List.map_id] at hmap
    rw [hbs, hmap]

/-- A list has the results of its entries, index by index. -/
theorem mapM_eq_ok_iff_getElem? {f : α → Except ε β} {as : List α} {bs : List β} :
    as.mapM f = .ok bs ↔
      bs.length = as.length ∧
        ∀ (i : Nat) (a : α), as[i]? = some a → ∃ b, bs[i]? = some b ∧ f a = .ok b := by
  constructor
  · intro h
    exact ⟨length_of_mapM h, fun i a ha => getElem?_ok_of_mapM h ha⟩
  · rintro ⟨hlength, hentries⟩
    have hall : ∀ a ∈ as, ∃ b, f a = .ok b := by
      intro a ha
      obtain ⟨i, hi⟩ := List.mem_iff_getElem?.mp ha
      obtain ⟨b, -, hb⟩ := hentries i a hi
      exact ⟨b, hb⟩
    obtain ⟨results, hresults⟩ := exists_mapM_eq_ok hall
    have hsame : results = bs := by
      apply List.ext_getElem?
      intro i
      cases ha : as[i]? with
      | none =>
        have hi := List.getElem?_eq_none_iff.mp ha
        rw [List.getElem?_eq_none (by rw [length_of_mapM hresults]; exact hi),
          List.getElem?_eq_none (by rw [hlength]; exact hi)]
      | some a =>
        obtain ⟨b, hb, hfb⟩ := hentries i a ha
        obtain ⟨result, hresult, hfresult⟩ := getElem?_ok_of_mapM hresults ha
        rw [hresult, hb, Except.ok.inj (hfresult.symm.trans hfb)]
    rw [hresults, hsame]

/-- A list of results fails with the first of its entries that fails. -/
theorem mapM_eq_error {f : α → Except ε β} {before after : List α} {a : α} {error : ε}
    (hbefore : ∀ b ∈ before, ∃ result, f b = .ok result) (h : f a = .error error) :
    (before ++ a :: after).mapM f = .error error := by
  induction before with
  | nil =>
    rw [List.nil_append, List.mapM_cons, h]
    rfl
  | cons first rest ih =>
    obtain ⟨result, hresult⟩ := hbefore first List.mem_cons_self
    have hrest := ih fun other hother => hbefore other (List.mem_cons_of_mem first hother)
    rw [List.cons_append, List.mapM_cons, hresult, ok_bind, hrest]
    rfl

/-- A list fails if an entry does before which none does. -/
theorem mapM_eq_error_iff {f : α → Except ε β} {as : List α} {error : ε} :
    as.mapM f = .error error ↔
      ∃ (i : Nat) (a : α), as[i]? = some a ∧ f a = .error error ∧
        ∀ (k : Nat) (b : α), k < i → as[k]? = some b → ∃ result, f b = .ok result := by
  constructor
  · intro h
    induction as with
    | nil => cases h
    | cons first rest ih =>
      cases hfirst : f first with
      | error failure =>
        rw [List.mapM_cons, hfirst] at h
        obtain rfl := Except.error.inj h
        exact ⟨0, first, rfl, hfirst, fun k b hk => absurd hk (Nat.not_lt_zero k)⟩
      | ok result =>
        rw [List.mapM_cons, hfirst, ok_bind, bind_eq_error_iff] at h
        rcases h with h | ⟨results, -, h⟩
        · obtain ⟨i, a, ha, hfa, hbefore⟩ := ih h
          refine ⟨i + 1, a, ha, hfa, fun k b hk hb => ?_⟩
          cases k with
          | zero =>
            obtain rfl : first = b := Option.some.inj hb
            exact ⟨result, hfirst⟩
          | succ k => exact hbefore k b (Nat.lt_of_succ_lt_succ hk) hb
        · cases h
  · rintro ⟨i, a, ha, hfa, hbefore⟩
    obtain ⟨hi, rfl⟩ := List.getElem?_eq_some_iff.mp ha
    have hsplit : as = as.take i ++ as[i] :: as.drop (i + 1) := by
      rw [← List.drop_eq_getElem_cons hi, List.take_append_drop]
    rw [hsplit]
    refine mapM_eq_error (fun b hb => ?_) hfa
    obtain ⟨k, hk⟩ := List.mem_iff_getElem?.mp hb
    have hki : k < i := by
      have hlength := (List.getElem?_eq_some_iff.mp hk).1
      rw [List.length_take] at hlength
      omega
    rw [List.getElem?_take_of_lt hki] at hk
    exact hbefore k b hki hk

/-- A list of checks passes only if each of them does. -/
theorem ok_of_mem_forM {f : α → Except ε Unit} {as : List α} (h : as.forM f = .ok ()) {a : α}
    (ha : a ∈ as) : f a = .ok () := by
  induction as with
  | nil => exact absurd ha List.not_mem_nil
  | cons first rest ih =>
    have hsteps : (f first >>= fun _ => rest.forM f) = .ok () := h
    obtain ⟨_, hfirst, hrest⟩ := bind_eq_ok_iff.mp hsteps
    rcases List.mem_cons.mp ha with rfl | ha
    · exact hfirst
    · exact ih hrest ha

/-- A list of checks passes if each of them does. -/
theorem forM_eq_ok {f : α → Except ε Unit} {as : List α} (h : ∀ a ∈ as, f a = .ok ()) :
    as.forM f = .ok () := by
  induction as with
  | nil => rfl
  | cons first rest ih =>
    show (f first >>= fun _ => rest.forM f) = .ok ()
    rw [h first List.mem_cons_self, ok_bind]
    exact ih fun other hother => h other (List.mem_cons_of_mem first hother)

/-- A list of results fails where one of its entries does. -/
theorem exists_of_mapM_eq_error {f : α → Except ε β} {as : List α} {error : ε}
    (h : as.mapM f = .error error) : ∃ a ∈ as, f a = .error error := by
  induction as with
  | nil => cases h
  | cons a as ih =>
    rw [List.mapM_cons, bind_eq_error_iff] at h
    rcases h with h | ⟨first, -, h⟩
    · exact ⟨a, List.mem_cons_self, h⟩
    · rcases bind_eq_error_iff.mp h with h | ⟨rest, -, h⟩
      · obtain ⟨a', ha', hf⟩ := ih h
        exact ⟨a', List.mem_cons_of_mem a ha', hf⟩
      · cases h

/-! ## Results that look the same

Two computations look the same under a function if they fail with the same error, or end with results
that the function sends to the same.
-/

/-- Sequences look the same if their first parts do, and their second parts after results that look
the same. -/
theorem map_bind_congr {γ δ : Type} {e : α → γ} {e' : β → δ} {x y : Except ε α}
    {f g : α → Except ε β} (h : e <$> x = e <$> y)
    (hnext : ∀ a b, e a = e b → e' <$> f a = e' <$> g b) :
    e' <$> (x >>= f) = e' <$> (y >>= g) := by
  cases x with
  | error error =>
    cases y with
    | error error' => exact congrArg Except.error (Except.error.inj h)
    | ok b => cases h
  | ok a =>
    cases y with
    | error error' => cases h
    | ok b => exact hnext a b (Except.ok.inj h)

/-- Sequences with the same first part look the same if their second parts do. -/
theorem map_bind_congr_right {m : Type → Type} [Monad m] [LawfulMonad m] {γ : Type} {e : β → γ}
    (x : m α) {f g : α → m β} (h : ∀ a, e <$> f a = e <$> g a) :
    e <$> (x >>= f) = e <$> (x >>= g) := by
  rw [map_bind, map_bind]
  exact bind_congr h

/-- Lists of results look the same if the results do, one by one. -/
theorem map_mapM_congr {α' γ : Type} {e : β → γ} {f : α → Except ε β} {g : α' → Except ε β}
    {k : α' → α} (h : ∀ a, e <$> f (k a) = e <$> g a) (as : List α') :
    List.map e <$> (as.map k).mapM f = List.map e <$> as.mapM g := by
  induction as with
  | nil => rfl
  | cons a as ih =>
    rw [List.map_cons, List.mapM_cons, List.mapM_cons]
    refine map_bind_congr (h a) fun first first' hfirst => ?_
    refine map_bind_congr ih fun rest rest' hrest => ?_
    show Except.ok (e first :: rest.map e) = Except.ok (e first' :: rest'.map e)
    rw [hfirst, hrest]

/-- Lists of results look the same if the results do for each entry. -/
theorem map_mapM_congr_right {γ : Type} {e : β → γ} {f g : α → Except ε β}
    (h : ∀ a, e <$> f a = e <$> g a) (as : List α) :
    List.map e <$> as.mapM f = List.map e <$> as.mapM g := by
  have hmap := map_mapM_congr (k := id) h as
  rwa [List.map_id] at hmap

/-! ## Entries read one after the other -/

/-- A part that only one key sets is what the entry under this key sets, and what it was before if
there is no such entry. -/
theorem part_of_foldlM {γ δ : Type} {step : σ → String → γ → Except ε σ} (part : σ → δ)
    {read : γ → Except ε δ} {key : String} {entries : Dict γ} {start end_ : σ}
    (own : ∀ before value after, step before key value = .ok after → read value = .ok (part after))
    (others : ∀ before other value after, other ≠ key → step before other value = .ok after →
      part after = part before)
    (hkeys : entries.keys.Nodup)
    (h : entries.foldlM (fun before entry => step before entry.1 entry.2) start = .ok end_) :
    (key ∉ entries.keys → part end_ = part start) ∧
      ∀ value, (key, value) ∈ entries → read value = .ok (part end_) := by
  induction entries generalizing start with
  | nil =>
    obtain rfl : start = end_ := Except.ok.inj h
    exact ⟨fun _ => rfl, fun value hmem => absurd hmem List.not_mem_nil⟩
  | cons first rest ih =>
    obtain ⟨name, found⟩ := first
    rw [List.foldlM_cons, bind_eq_ok_iff] at h
    obtain ⟨between, hfirst, hrest⟩ := h
    rw [Dict.keys_cons, List.nodup_cons] at hkeys
    obtain ⟨habsent, hpresent⟩ := ih hkeys.2 hrest
    rw [Dict.keys_cons, List.mem_cons, not_or]
    constructor
    · rintro ⟨hname, hnone⟩
      rw [habsent hnone, others _ _ _ _ (Ne.symm hname) hfirst]
    · intro value hmem
      rcases List.mem_cons.mp hmem with hentry | hmem
      · obtain ⟨rfl, rfl⟩ := Prod.mk.inj hentry
        rw [habsent hkeys.1]
        exact own _ _ _ hfirst
      · exact hpresent value hmem

/-! ## Results with a state -/

/-- A sequence with a state ends with a result if both of its parts do, one after the other. -/
theorem bind_run_eq_ok_iff {x : StateT σ (Except ε) α} {f : α → StateT σ (Except ε) β}
    {before after : σ} {b : β} :
    (x >>= f) before = .ok (b, after) ↔
      ∃ a between, x before = .ok (a, between) ∧ f a between = .ok (b, after) := by
  show (x before >>= fun result => f result.1 result.2) = .ok (b, after) ↔ _
  rw [bind_eq_ok_iff]
  constructor
  · rintro ⟨⟨a, between⟩, hx, hf⟩
    exact ⟨a, between, hx, hf⟩
  · rintro ⟨a, between, hx, hf⟩
    exact ⟨(a, between), hx, hf⟩

/-- A computation without a state leaves the state as it is. -/
theorem lift_run_eq_ok_iff {x : Except ε α} {before after : σ} {a : α} :
    (liftM x : StateT σ (Except ε) α) before = .ok (a, after) ↔ x = .ok a ∧ after = before := by
  constructor
  · intro h
    cases x with
    | error e => cases h
    | ok result =>
      obtain ⟨rfl, rfl⟩ := Prod.mk.inj (Except.ok.inj h)
      exact ⟨rfl, rfl⟩
  · rintro ⟨rfl, rfl⟩
    rfl

/-- A result without further steps leaves the state as it is. -/
theorem pure_run_eq_ok_iff {before after : σ} {a b : α} :
    (pure a : StateT σ (Except ε) α) before = .ok (b, after) ↔ a = b ∧ after = before := by
  show Except.ok (a, before) = .ok (b, after) ↔ _
  rw [Except.ok.injEq, Prod.mk.injEq]
  exact and_congr_right fun _ => eq_comm

/-- The result of a computation without a state is mapped as it is. -/
theorem map_liftM (e : α → β) (x : Except ε α) :
    e <$> (liftM x : StateT σ (Except ε) α) = liftM (e <$> x) := by
  funext before
  cases x <;> rfl

/-- Sequences with a state look the same if both of their parts do, from the same states on. -/
theorem map_bind_congr_state {γ δ : Type} {e : α → γ} {e' : β → δ} {x y : StateT σ (Except ε) α}
    {f g : α → StateT σ (Except ε) β} (h : e <$> x = e <$> y)
    (hnext : ∀ a b, e a = e b → e' <$> f a = e' <$> g b) :
    e' <$> (x >>= f) = e' <$> (y >>= g) := by
  funext before
  have hfirst : (fun r : α × σ => (e r.1, r.2)) <$> x before =
      (fun r : α × σ => (e r.1, r.2)) <$> y before := congrFun h before
  refine map_bind_congr hfirst fun r r' hr => ?_
  obtain ⟨hvalue, hstate⟩ := Prod.mk.inj hr
  show (e' <$> f r.1) r.2 = (e' <$> g r'.1) r'.2
  rw [hnext r.1 r'.1 hvalue, hstate]

end RelationalQuery
