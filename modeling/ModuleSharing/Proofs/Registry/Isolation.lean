import ModuleSharing.Registry.Trace
import ModuleSharing.Proofs.Registry.Effect

/-! Addresses do not interfere.  An operation changes the shelf of its own address only
(`operate_elsewhere`), and that shelf decides what it does (`operate_congr`).  So the operations on
one address go as they would without all others, and operations on different addresses commute
(`trace_of_one_address`). -/

namespace ModuleSharing

variable {μ : Type}

namespace Registry

/-! ## One operation -/

theorem activate_elsewhere (r : Registry μ) {a b : Address} (h : b ≠ a) (v : Version) :
    (r.activate a v).2.shelf? b = r.shelf? b := by
  unfold activate
  split
  · rfl
  · split
    · rw [shelf?_setShelf, if_neg h]
    · rfl

theorem activate_congr {r r' : Registry μ} {a : Address} (h : r.shelf? a = r'.shelf? a)
    (v : Version) :
    (r.activate a v).1 = (r'.activate a v).1 ∧
      (r.activate a v).2.shelf? a = (r'.activate a v).2.shelf? a := by
  unfold activate
  rw [h]
  cases hs : r'.shelf? a with
  | none => exact ⟨rfl, by rw [h]⟩
  | some s =>
    dsimp only
    split
    · exact ⟨rfl, by rw [shelf?_setShelf, shelf?_setShelf, if_pos rfl, if_pos rfl]⟩
    · exact ⟨rfl, by rw [h]⟩

theorem warnings_activate (r : Registry μ) (a : Address) (v : Version) :
    (r.activate a v).2.warnings = r.warnings := by
  unfold activate
  split
  · rfl
  · split <;> rfl

/-- An operation leaves the shelves of all other addresses alone. -/
theorem operate_elsewhere (r : Registry μ) (x : Operation μ) {a : Address} (h : a ≠ x.address) :
    (r.operate x).2.shelf? a = r.shelf? a := by
  cases x with
  | query q => rfl
  | call c =>
    change a ≠ c.address at h
    change (r.perform c).2.shelf? a = r.shelf? a
    cases c.kind with
    | registers version origin factory eager hperformed =>
      rw [hperformed]
      exact Dictionary.get?_insert_of_ne _ h _
    | activates version hcall =>
      rw [hcall]
      exact r.activate_elsewhere h version
    | loads q _ haddress hperformed =>
      rw [hperformed, (resolve_eq_answer r q).2.2 a, haddress, if_neg h]

theorem ask_congr {r r' : Registry μ} (q : Query) (h : r.shelf? q.address = r'.shelf? q.address) :
    r.ask q = r'.ask q := by
  cases q <;> simp only [Query.address] at h <;>
    simp only [ask, entry?, versions, entries, activated?, h]

/-- The shelf of its address decides what a call does: the reply, the shelf afterwards and the new
warnings. -/
theorem perform_congr {r r' : Registry μ} (c : Call μ)
    (h : r.shelf? c.address = r'.shelf? c.address) :
    (r.perform c).1 = (r'.perform c).1 ∧
    (r.perform c).2.shelf? c.address = (r'.perform c).2.shelf? c.address ∧
    ∃ warnings, (r.perform c).2.warnings = r.warnings ++ warnings ∧
      (r'.perform c).2.warnings = r'.warnings ++ warnings := by
  have hshelf : r.shelf c.address = r'.shelf c.address := by simp only [shelf, h]
  cases c.kind with
  | registers version origin factory eager hperformed =>
    rw [hperformed, hperformed]
    refine ⟨rfl, ?_, [], (List.append_nil _).symm, (List.append_nil _).symm⟩
    simp only [register, shelf?_setShelf, if_true, h]
  | activates version hcall =>
    obtain ⟨hresult, hafter⟩ := activate_congr h version
    rw [hcall]
    refine ⟨congrArg Reply.activated hresult, hafter, [], ?_, ?_⟩
    · exact (r.warnings_activate _ version).trans (List.append_nil _).symm
    · exact (r'.warnings_activate _ version).trans (List.append_nil _).symm
  | loads q _ haddress hperformed =>
    obtain ⟨hresult, hwarnings, hafter⟩ := resolve_eq_answer r q
    obtain ⟨hresult', hwarnings', hafter'⟩ := resolve_eq_answer r' q
    rw [← haddress] at h hshelf ⊢
    rw [hperformed, hperformed]
    refine ⟨?_, ?_, _, hwarnings, ?_⟩
    · rw [hresult, hresult', hshelf]
    · rw [hafter, hafter', if_pos rfl, if_pos rfl, h]
    · rw [hwarnings', hshelf]

theorem operate_congr {r r' : Registry μ} (x : Operation μ)
    (h : r.shelf? x.address = r'.shelf? x.address) :
    (r.operate x).1 = (r'.operate x).1 ∧
    (r.operate x).2.shelf? x.address = (r'.operate x).2.shelf? x.address ∧
    ∃ warnings, (r.operate x).2.warnings = r.warnings ++ warnings ∧
      (r'.operate x).2.warnings = r'.warnings ++ warnings := by
  cases x with
  | query q =>
    exact ⟨ask_congr q h, h, [], (List.append_nil _).symm, (List.append_nil _).symm⟩
  | call c =>
    obtain ⟨hreply, hafter, hwarnings⟩ := perform_congr c h
    exact ⟨congrArg Response.reply hreply, hafter, hwarnings⟩

@[simp] theorem event_operation (r : Registry μ) (x : Operation μ) :
    (r.event x).operation = x := rfl

theorem warnings_operate (r : Registry μ) (x : Operation μ) :
    (r.operate x).2.warnings = r.warnings ++ (r.event x).warnings := by
  have hsame : r.shelf? x.address = r.shelf? x.address := rfl
  obtain ⟨_, _, warnings, hwarnings, _⟩ := operate_congr x hsame
  simp only [event, hwarnings, List.drop_left]

theorem event_congr {r r' : Registry μ} (x : Operation μ)
    (h : r.shelf? x.address = r'.shelf? x.address) : r.event x = r'.event x := by
  obtain ⟨hresponse, _, warnings, hwarnings, hwarnings'⟩ := operate_congr x h
  simp only [event, hresponse, hwarnings, hwarnings', List.drop_left]

theorem Indexed.operate {r : Registry μ} (h : r.Indexed) (x : Operation μ) :
    (r.operate x).2.Indexed := by
  cases x with
  | query q => exact h
  | call c => exact h.perform c

/-! ## Traces -/

theorem Indexed.trace {r : Registry μ} (h : r.Indexed) (operations : List (Operation μ)) :
    (r.trace operations).2.Indexed := by
  induction operations generalizing r with
  | nil => exact h
  | cons x operations ih => exact ih (h.operate x)

theorem trace_cons (r : Registry μ) (x : Operation μ) (operations : List (Operation μ)) :
    r.trace (x :: operations) =
      (r.event x :: ((r.operate x).2.trace operations).1,
        ((r.operate x).2.trace operations).2) := rfl

theorem trace_pair (r : Registry μ) (x y : Operation μ) :
    (r.trace [x, y]).1 = [r.event x, (r.operate x).2.event y] := rfl

theorem warnings_trace (r : Registry μ) (operations : List (Operation μ)) :
    (r.trace operations).2.warnings =
      r.warnings ++ (r.trace operations).1.flatMap Event.warnings := by
  induction operations generalizing r with
  | nil => exact (List.append_nil _).symm
  | cons x operations ih =>
    rw [trace_cons, List.flatMap_cons, ih, warnings_operate, List.append_assoc]

/-- Two registries have the same shelf at an address, and one of them gets all operations, the other
only those on that address: these give the same, and the shelf at that address stays the same. -/
theorem trace_filter {r r' : Registry μ} {a : Address} (h : r.shelf? a = r'.shelf? a)
    (operations : List (Operation μ)) :
    ((r.trace operations).1.filter fun e => e.operation.address = a) =
      (r'.trace (operations.filter fun x => x.address = a)).1 ∧
    (r.trace operations).2.shelf? a =
      (r'.trace (operations.filter fun x => x.address = a)).2.shelf? a := by
  induction operations generalizing r r' with
  | nil => exact ⟨rfl, h⟩
  | cons x operations ih =>
    by_cases hx : x.address = a
    · obtain ⟨hevents, hafter⟩ := ih (hx ▸ (operate_congr x (hx ▸ h)).2.1)
      simp only [trace_cons, List.filter_cons, event_operation, hx, decide_true, if_true]
      rw [hevents, event_congr x (hx ▸ h)]
      exact ⟨rfl, hafter⟩
    · have hkept : (r.operate x).2.shelf? a = r'.shelf? a :=
        (r.operate_elsewhere x (Ne.symm hx)).trans h
      simp only [trace_cons, List.filter_cons, event_operation, hx, decide_false,
        Bool.false_eq_true, if_false]
      exact ih hkept

/-! ## Two operations on different addresses -/

theorem event_operate (r : Registry μ) {x y : Operation μ} (h : x.address ≠ y.address) :
    (r.operate x).2.event y = r.event y :=
  event_congr y (r.operate_elsewhere x (Ne.symm h))

theorem shelf?_operate_operate (r : Registry μ) {x y : Operation μ} (h : x.address ≠ y.address)
    {a : Address} (ha : a ≠ y.address) :
    ((r.operate x).2.operate y).2.shelf? a = ((r.operate y).2.operate x).2.shelf? a := by
  rw [operate_elsewhere _ y ha]
  by_cases hx : a = x.address
  · subst hx
    exact ((operate_congr x (r.operate_elsewhere y h)).2.1).symm
  · rw [operate_elsewhere _ x hx, operate_elsewhere _ x hx, operate_elsewhere _ y ha]

theorem Indexed.shelves_operate_operate {r : Registry μ} (h : r.Indexed) {x y : Operation μ}
    (hxy : x.address ≠ y.address) :
    ((r.operate x).2.operate y).2.shelves = ((r.operate y).2.operate x).2.shelves := by
  refine ((h.operate x).operate y).shelves_eq ((h.operate y).operate x) fun a => ?_
  by_cases ha : a = y.address
  · exact (r.shelf?_operate_operate (Ne.symm hxy) (by rw [ha]; exact Ne.symm hxy)).symm
  · exact r.shelf?_operate_operate hxy ha

/-- In every run the operations on one address give the same, and add the same warnings in the same
order, as in the run of these operations alone.  The warnings of the registry are those that the
operations added.  Two operations on different addresses commute: each gives what it gives without
the other, and the registry is the same up to the order of its warnings. -/
theorem trace_of_one_address (operations : List (Operation μ)) :
    let r := (empty.trace operations).2
    (∀ a, ((empty.trace operations).1.filter fun e => e.operation.address = a) =
        ((empty : Registry μ).trace (operations.filter fun x => x.address = a)).1) ∧
    r.warnings = (empty.trace operations).1.flatMap Event.warnings ∧
    ∀ x y : Operation μ, x.address ≠ y.address →
      (r.trace [x, y]).1 = [r.event x, r.event y] ∧
      (r.trace [y, x]).1 = [r.event y, r.event x] ∧
      (r.trace [x, y]).2.shelves = (r.trace [y, x]).2.shelves ∧
      (r.trace [x, y]).2.warnings = r.warnings ++ (r.event x).warnings ++ (r.event y).warnings ∧
      (r.trace [y, x]).2.warnings = r.warnings ++ (r.event y).warnings ++ (r.event x).warnings := by
  intro r
  have hempty : (empty : Registry μ).Indexed := Dictionary.ascending_empty
  have hindexed : r.Indexed := hempty.trace operations
  refine ⟨fun a => (trace_filter rfl operations).1, ?_, fun x y hxy => ?_⟩
  · exact (empty.warnings_trace operations).trans (List.nil_append _)
  · have hxy' := r.event_operate hxy
    have hyx' := r.event_operate (Ne.symm hxy)
    refine ⟨?_, ?_, hindexed.shelves_operate_operate hxy, ?_, ?_⟩
    · rw [trace_pair, hxy']
    · rw [trace_pair, hyx']
    · rw [warnings_trace, trace_pair, hxy']
      simp
    · rw [warnings_trace, trace_pair, hyx']
      simp

/-- The operations of two bundles on two addresses, mixed. -/
def twoModules : List (Operation String) :=
  [.call (.register react ⟨1, 0, 0, [], []⟩ "host" (.ok "react one") false),
   .call (.register vue ⟨3, 0, 0, [], []⟩ "shop" (.ok "vue three") false),
   .call (.loadSingleton react none),
   .call (.activate vue ⟨3, 0, 0, [], []⟩),
   .query (.versions vue),
   .call (.resolve (singletonFor 2)),
   .query (.activated react)]

theorem trace_of_one_address_twoModules :
    let r := (empty.trace twoModules).2
    let first : Operation String := .call (.resolve (singletonFor 2))
    let second : Operation String := .call (.resolve { singletonFor 2 with address := vue })
    ((empty.trace twoModules).1.filter fun e => e.operation.address = vue) =
      (empty.trace (twoModules.filter fun x => x.address = vue)).1 ∧
    first.address ≠ second.address ∧
    (r.trace [first, second]).2.shelves = (r.trace [second, first]).2.shelves ∧
    (r.event first).warnings = [(conflict (singletonFor 2) ⟨1, 0, 0, [], []⟩).message] ∧
    (r.trace [first, second]).2.warnings ≠ (r.trace [second, first]).2.warnings := by
  intro r first second
  obtain ⟨hevents, _, hcommute⟩ := trace_of_one_address twoModules
  have haddress : first.address ≠ second.address := by decide
  obtain ⟨_, _, hshelves, _⟩ := hcommute first second haddress
  exact ⟨hevents vue, haddress, hshelves, rfl, by decide⟩

end Registry

end ModuleSharing
