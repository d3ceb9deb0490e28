import BucketProvisioning.Proofs.Engine.Listing
import BucketProvisioning.Proofs.Reconcile.Discretion

/-!
# Two lifetimes with different key pairs

The desk of the accesses lives twice.  The same happens to it both times, in the same order, but
for what its calls give: key pairs may differ, and so may what is in secrets.  At every moment the
two desks are *alike*: stores, queue, reports and workers are the same, and whoever is busy is in
the middle of programs that are alike.

* `Desk.occur_alike`: whatever happens keeps desks alike, and if it is possible at one of them it is
  possible at the other.
* `Desk.live` has a desk go through a list of things that happen; whatever it goes through is a
  lifetime (`Desk.lifetime_of_live`).
* `key_pairs_stay_secret`: what this says of whole lifetimes and of everything that is seen of them.
-/

set_option autoImplicit false
set_option linter.unusedSectionVars false

namespace BucketProvisioning.Engine

open BucketProvisioning BucketProvisioning.Reconcile BucketProvisioning.Watch
open BucketProvisioning.Queue
open BucketProvisioning.Resource (Object ObjectReference BucketAccess)

variable {α : Type} [Object α]

/-! ## What is alike -/

/-- Two workers are doing the same; if they are busy, their programs are alike. -/
inductive Worker.Alike : Worker α → Worker α → Prop
  /-- They are not busy. -/
  | same (w : Worker α) (unoccupied : ∀ key rest, w ≠ .busy key rest) : Alike w w
  /-- They are busy with the same key. -/
  | busy (key : String) {rest rest' : Program α (Except Failure Unit)}
      (programs : rest.Alike Eq rest') : Alike (.busy key rest) (.busy key rest')

/-- Workers that are alike hold the same key. -/
theorem Worker.Alike.key? {w w' : Worker α} (h : w.Alike w') : w.key? = w'.key? := by
  cases h <;> rfl

/-- Two desks are the same, but for the programs with which their workers are busy; and those are
alike. -/
structure Desk.Alike (d d' : Desk α) : Prop where
  /-- Everything but the workers is the same. -/
  same : d' = { d with workers := d'.workers }
  /-- The workers are doing the same. -/
  workers : ∀ i, Option.Rel Worker.Alike (d.worker? i) (d'.worker? i)

/-- Two deeds are the same, but for the key pair in a secret that is created. -/
inductive Deed.Alike : Deed → Deed → Prop
  /-- Calls that are alike are made for the same key. -/
  | call (key : String) {c c' : Call} (calls : c.Alike c') : Alike (.call key c) (.call key c')
  /-- The same event is published. -/
  | event (key : String) (e : Event) (about : ObjectReference) :
      Alike (.event key e about) (.event key e about)

/-- The same happens; what calls give is alike if the calls are. -/
inductive Happening.Alike : Happening α → Happening α → Prop
  /-- Something happens that is no step of a worker. -/
  | same (h : Happening α) (aside : ∀ i reply, h ≠ .move (.work i reply)) : Alike h h
  /-- A worker does its next step. -/
  | work (i : Nat) {reply reply' : Replies}
      (likewise : ∀ c c', c.Alike c' → Likewise c c' (reply c) (reply' c')) :
      Alike (.move (.work i reply)) (.move (.work i reply'))

/-! ## What happens and what is seen of it -/

namespace Desk

section seen

variable (reconcile : String → Program α (Except Failure Unit)) (count : Nat)

/-- A desk and its chronicle after a list of things that happen, unless one of them cannot. -/
def live (d : Desk α) (log : Chronicle α) :
    List (Option (Happening α)) → Option (Desk α × Chronicle α)
  | [] => some (d, log)
  | o :: later => (d.occur reconcile count o).bind fun r => live r.1 ((d, o) :: log) later

/-- The key that a worker has finished with, and how the key fared. -/
def result? (d : Desk α) : Option (Happening α) → Option (String × Except Failure Unit)
  | some (.move (.work i _)) =>
    match d.worker? i with
    | some (.busy key (.done outcome)) => some (key, outcome)
    | _ => none
  | _ => none

/-- What occurs at a desk happens there, whatever is told of the call that is made. -/
theorem happen_of_occur {d d' : Desk α} {h : Happening α} {deed : Option Deed}
    (occurs : d.occur reconcile count (some h) = some (d', deed)) :
    d.happen reconcile count h = some d' := by
  cases h with
  | move m => exact congrArg (Option.map Prod.fst) occurs
  | lose i =>
    simp only [occur] at occurs
    simp only [happen]
    cases turned : d.turn reconcile i with
    | call key c next =>
      simp only [turned] at occurs
      exact congrArg (Option.map Prod.fst) occurs
    | _ => simp [turned] at occurs
  | wait now | queue text | arrange ks =>
    simp only [occur] at occurs
    obtain ⟨_, happens, same⟩ := Option.map_eq_some_iff.1 occurs
    obtain ⟨rfl, -⟩ := Prod.mk.inj same
    exact happens

/-- What a desk goes through one after the other is a lifetime. -/
theorem lifetime_of_live {first d d' : Desk α} {log log' : Chronicle α}
    {happenings : List (Option (Happening α))} (life : Lifetime reconcile count first d log)
    (lives : d.live reconcile count log happenings = some (d', log')) :
    Lifetime reconcile count first d' log' := by
  induction happenings generalizing d log with
  | nil =>
    obtain ⟨rfl, rfl⟩ := Prod.mk.inj (Option.some.inj lives)
    exact life
  | cons o later ih =>
    obtain ⟨r, occurs, rest⟩ := Option.bind_eq_some_iff.1 lives
    cases o with
    | none =>
      obtain rfl := Option.some.inj occurs
      exact ih life.shutDown rest
    | some h => exact ih (life.next (happen_of_occur reconcile count occurs)) rest

end seen

/-! ## Desks that are alike -/

/-- A desk at which nobody is busy is like itself. -/
theorem alike_refl {d : Desk α} (unoccupied : ∀ i key rest, d.worker? i ≠ some (.busy key rest)) :
    d.Alike d where
  same := rfl
  workers i := by
    cases is : d.worker? i with
    | none => exact .none
    | some w => exact .some (.same w fun key rest busy => unoccupied i key rest (busy ▸ is))

namespace Alike

variable {d d' e e' : Desk α}

/-- What is done to both desks alike, and to no worker, keeps them alike. -/
theorem aside (h : d.Alike d') (same : e' = { e with workers := d'.workers })
    (workers : e.workers = d.workers) : e.Alike e' where
  same := by rw [same]
  workers i := by
    have is : e.worker? i = d.worker? i := by rw [worker?, workers, worker?]
    have is' : e'.worker? i = d'.worker? i := by rw [same]; rfl
    rw [is, is']
    exact h.workers i

/-- Desks that are alike have as many workers. -/
theorem length_workers (h : d.Alike d') : d'.workers.length = d.workers.length := by
  have beyond (i : Nat) : d.workers.length ≤ i ↔ d'.workers.length ≤ i := by
    have both := h.workers i
    unfold worker? at both
    rw [← List.getElem?_eq_none_iff, ← List.getElem?_eq_none_iff]
    generalize d.workers[i]? = w, d'.workers[i]? = w' at both
    cases both <;> simp
  exact Nat.le_antisymm ((beyond _).1 (Nat.le_refl _)) ((beyond _).2 (Nat.le_refl _))

/-- A worker at both desks turns to something that is alike. -/
theorem setWorker (h : d.Alike d') (i : Nat) {w w' : Worker α} (alike : w.Alike w') :
    (d.setWorker i w).Alike (d'.setWorker i w') where
  same := by
    rw [h.same]
    rfl
  workers j := by
    simp only [worker?, Desk.setWorker, List.getElem?_set, h.length_workers]
    split
    · split
      · exact .some alike
      · exact .none
    · exact h.workers j

/-- Queue and stores change alike at both desks, and a worker turns to something that is alike. -/
theorem turned (h : d.Alike d') (i : Nat) (queue : RetryQueue String) (stores : Stores α)
    {w w' : Worker α} (alike : w.Alike w') :
    ({ d with queue, stores }.setWorker i w).Alike ({ d' with queue, stores }.setWorker i w') := by
  have changed : ({ d with queue, stores } : Desk α).Alike { d' with queue, stores } := by
    refine h.aside ?_ rfl
    rw [h.same]
  exact changed.setWorker i alike

end Alike

section turns

variable {reconcile : String → Program α (Except Failure Unit)} {count : Nat}
variable {d d' : Desk α}

/-- Two turns are alike: they leave desks alike, and what they do to the world outside is alike. -/
inductive TurnsAlike : Turn α → Turn α → Prop
  /-- They concern the desk alone. -/
  | step {d d' : Desk α} (alike : d.Alike d') : TurnsAlike (.step d) (.step d')
  /-- The same event is published. -/
  | publish (key : String) (e : Event) (about : ObjectReference) {d d' : Desk α}
      (alike : d.Alike d') : TurnsAlike (.publish key e about d) (.publish key e about d')
  /-- Calls that are alike are made. -/
  | call (key : String) {c c' : Call} (calls : c.Alike c')
      {next : Except Failure c.Result → Desk α} {next' : Except Failure c'.Result → Desk α}
      (alike : ∀ reply reply', Likewise c c' reply reply' → (next reply).Alike (next' reply')) :
      TurnsAlike (.call key c next) (.call key c' next')
  /-- There is no next step. -/
  | none : TurnsAlike .none .none

/-- The next steps of a worker at desks that are alike. -/
theorem turnsAlike (discreet : ∀ text, (reconcile text).Alike Eq (reconcile text))
    (h : d.Alike d') (i : Nat) : TurnsAlike (d.turn reconcile i) (d'.turn reconcile i) := by
  obtain ⟨ws, rfl⟩ : ∃ ws, d' = { d with workers := ws } := ⟨_, h.same⟩
  have workers := h.workers i
  unfold turn
  rcases was : d.worker? i with _ | w <;>
    rcases was' : ({ d with workers := ws } : Desk α).worker? i with _ | w' <;>
    rw [was, was'] at workers <;> cases workers
  case none => exact .none
  case some alike =>
    have free (v : Worker α) (queue : RetryQueue String)
        (unoccupied : ∀ key rest, v ≠ .busy key rest) :
        TurnsAlike (.step ({ d with queue }.setWorker i v))
          (.step ({ d with queue, workers := ws }.setWorker i v)) :=
      .step (h.turned i queue d.stores (.same v unoccupied))
    cases alike with
    | busy key programs =>
      cases programs with
      | @done outcome _ same =>
        obtain rfl := same
        exact free _ _ (by simp)
      | store a programs =>
        exact .step (h.turned i d.queue (d.stores.answer a).2 (.busy key (programs _)))
      | publish e about programs =>
        exact .publish key e about (h.setWorker i (.busy key programs))
      | call calls programs =>
        exact .call key calls fun reply reply' likewise =>
          h.setWorker i (.busy key (programs reply reply' likewise))
    | same _ unoccupied =>
      cases w with
      | idle => exact free .listening _ (by simp)
      | listening =>
        cases looked : d.queue.station.look i with
        | mk found station =>
          simp only [look, looked]
          cases found with
          | key key =>
            refine .step (h.turned i { d.queue with station } d.stores ?_)
            exact .busy key (discreet key)
          | closed => exact free .stopped { d.queue with station } (by simp)
          | nothing => exact free .asleep { d.queue with station } (by simp)
      | asleep =>
        show TurnsAlike (if d.isWoken i then _ else _) (if d.isWoken i then _ else _)
        split
        · exact free .listening _ (by simp)
        · exact .none
      | busy key rest => exact absurd rfl (unoccupied key rest)
      | closing key => exact free .idle (d.queue.done key) (by simp)
      | stopped => exact .none
      | lost key => exact .none

/-- What a move leaves, and what it does to the world outside, is alike. -/
abbrev MovesAlike : Desk α × Option Deed → Desk α × Option Deed → Prop :=
  fun r r' => r.1.Alike r'.1 ∧ Option.Rel Deed.Alike r.2 r'.2

/-- Workers that are alike make moves that are alike, if they hear likewise of their calls. -/
theorem movesAlike_work (count : Nat)
    (discreet : ∀ text, (reconcile text).Alike Eq (reconcile text)) (h : d.Alike d') (i : Nat)
    {reply reply' : Replies}
    (likewise : ∀ c c', c.Alike c' → Likewise c c' (reply c) (reply' c')) :
    Option.Rel MovesAlike (d.move reconcile count (.work i reply))
      (d'.move reconcile count (.work i reply')) := by
  have turns := turnsAlike discreet h i
  simp only [move]
  generalize d.turn reconcile i = turn, d'.turn reconcile i = turn' at turns
  cases turns with
  | step alike => exact .some ⟨alike, .none⟩
  | publish key e about alike => exact .some ⟨alike, .some (.event key e about)⟩
  | call key calls alike =>
    exact .some ⟨alike _ _ (likewise _ _ calls), .some (.call key calls)⟩
  | none => exact .none

/-- A move that is no step of a worker does the same at both desks. -/
theorem movesAlike_aside (h : d.Alike d') {m : Move α} (aside : ∀ i reply, m ≠ .work i reply) :
    Option.Rel MovesAlike (d.move reconcile count m) (d'.move reconcile count m) := by
  obtain ⟨ws, rfl⟩ : ∃ ws, d' = { d with workers := ws } := ⟨_, h.same⟩
  cases m with
  | work i reply => exact absurd rfl (aside i reply)
  | receive e =>
    by_cases idle : d.routing.isEmpty = true
    · simp only [move, idle, if_true]
      exact .some ⟨h.aside rfl rfl, .none⟩
    · simp only [move, idle, Bool.false_eq_true, if_false]
      exact .none
  | notify n =>
    by_cases idle : d.routing.isEmpty = true
    · simp only [move, idle, if_true]
      exact .some ⟨h.aside rfl rfl, .none⟩
    · simp only [move, idle, Bool.false_eq_true, if_false]
      exact .none
  | route =>
    simp only [move, route?]
    cases d.routing with
    | nil => exact .none
    | cons e rest =>
      refine .some ⟨h.aside (e := { d with routing := rest }.apply e) ?_ ?_, .none⟩
      · cases e <;> rfl
      · exact workers_apply _ e
  | start =>
    simp only [move]
    by_cases ready : (decide (d.pool = .waiting) && d.stores.cache.synced) = true
    · simp only [start, ready, if_true]
      refine .some ⟨alike_refl fun i key rest is => ?_, .none⟩
      simp [worker?, List.getElem?_replicate] at is
    · simp only [ready, Bool.false_eq_true, if_false]
      exact .none
  | fire =>
    simp only [move]
    cases d.queue.fire? with
    | none => exact .none
    | some queue => exact .some ⟨h.aside rfl rfl, .none⟩
  | resync =>
    simp only [move]
    cases closed : d.queue.isShuttingDown with
    | true => exact .none
    | false =>
      refine .some ⟨h.aside ?_ ?_, .none⟩
      · simp only [resync, closed, Bool.false_eq_true, if_false]
      · rw [(resync_eq closed).1]

/-- **Whatever happens keeps desks alike**, and what is done to the world outside is alike; if it is
possible at one of them it is possible at the other. -/
theorem occur_alike (count : Nat) (discreet : ∀ text, (reconcile text).Alike Eq (reconcile text))
    (h : d.Alike d') {o o' : Option (Happening α)} (same : Option.Rel Happening.Alike o o') :
    Option.Rel MovesAlike (d.occur reconcile count o) (d'.occur reconcile count o') := by
  have queue : d'.queue = d.queue := by rw [h.same]
  rcases same with same | _
  · rcases same with ⟨_, aside⟩ | ⟨i, likewise⟩
    · rename_i happening
      cases happening with
      | move m => exact movesAlike_aside h fun i reply is => aside i reply (is ▸ rfl)
      | wait now =>
        simp only [occur, happen, queue]
        by_cases later : d.queue.now ≤ now
        · simp only [later, if_true]
          exact .some ⟨h.aside (by rw [h.same]; rfl) rfl, .none⟩
        · simp only [later, if_false]
          exact .none
      | queue text => exact .some ⟨h.aside (by rw [h.same]) rfl, .none⟩
      | arrange ks =>
        have cache : d'.stores = d.stores := by rw [h.same]
        simp only [occur, happen, cache]
        by_cases same : ks.Perm d.stores.cache.objects.keys
        · simp only [same, if_true]
          exact .some ⟨h.aside (by rw [h.same]; rfl) rfl, .none⟩
        · simp only [same, if_false]
          exact .none
      | lose i =>
        have turns := turnsAlike discreet h i
        simp only [occur]
        generalize d.turn reconcile i = turn, d'.turn reconcile i = turn' at turns
        cases turns with
        | call key calls alike =>
          exact .some ⟨h.setWorker i (.same (.lost key) (by simp)), .some (.call key calls)⟩
        | _ => exact .none
    · exact movesAlike_work count discreet h i likewise
  · exact .some ⟨h.aside (by rw [h.same]; rfl) rfl, .none⟩

/-- Whatever is done at desks that are alike is alike. -/
theorem deed?_alike (discreet : ∀ text, (reconcile text).Alike Eq (reconcile text))
    (h : d.Alike d') {o o' : Option (Happening α)} (same : Option.Rel Happening.Alike o o') :
    Option.Rel Deed.Alike (d.deed? reconcile count o) (d'.deed? reconcile count o') := by
  have occurs := occur_alike count discreet h same
  unfold deed?
  generalize d.occur reconcile count o = r, d'.occur reconcile count o' = r' at occurs
  cases occurs with
  | none => exact .none
  | some alike => exact alike.2

/-- Every key fares alike. -/
theorem result?_alike (h : d.Alike d') {o o' : Option (Happening α)}
    (same : Option.Rel Happening.Alike o o') : d.result? o = d'.result? o' := by
  have worked (i : Nat) (reply reply' : Replies) :
      d.result? (some (.move (.work i reply))) = d'.result? (some (.move (.work i reply'))) := by
    have both := h.workers i
    simp only [result?]
    generalize d.worker? i = w, d'.worker? i = w' at both
    cases both with
    | none => rfl
    | some alike =>
      cases alike with
      | same => rfl
      | busy key programs =>
        cases programs with
        | done same => rw [same]
        | _ => rfl
  rcases same with same | _
  · rcases same with ⟨_, aside⟩ | ⟨i, likewise⟩
    · rename_i happening
      cases happening with
      | move m =>
        cases m with
        | work i reply => exact worked i reply reply
        | _ => rfl
      | _ => rfl
    · exact worked i _ _
  · rfl

end turns

/-! ## Lifetimes that are alike -/

section lives

variable (reconcile : String → Program α (Except Failure Unit)) (count : Nat)

/-- Two moments cannot be told apart but by the key pair in a secret that is created. -/
structure Indistinct (e e' : Desk α × Option (Happening α)) : Prop where
  /-- Cache and records are the same. -/
  stores : e.1.stores = e'.1.stores
  /-- The queue is the same. -/
  queue : e.1.queue = e'.1.queue
  /-- Every worker holds the same key. -/
  held : ∀ i, e.1.keyOf? i = e'.1.keyOf? i
  /-- The same is done to the world outside, but for that key pair. -/
  deeds : Option.Rel Deed.Alike (e.1.deed? reconcile count e.2) (e'.1.deed? reconcile count e'.2)
  /-- The same key fares in the same way. -/
  results : e.1.result? e.2 = e'.1.result? e'.2

variable {reconcile count}

/-- At desks that are alike the same keys are held. -/
theorem keyOf?_alike {d d' : Desk α} (h : d.Alike d') (i : Nat) : d.keyOf? i = d'.keyOf? i := by
  have both := h.workers i
  unfold keyOf?
  generalize d.worker? i = w, d'.worker? i = w' at both
  cases both with
  | none => rfl
  | some alike => exact alike.key?

/-- Desks that are alike cannot be told apart but by key pairs. -/
theorem Alike.indistinct (discreet : ∀ text, (reconcile text).Alike Eq (reconcile text))
    {d d' : Desk α} (h : d.Alike d') {o o' : Option (Happening α)}
    (same : Option.Rel Happening.Alike o o') : Indistinct reconcile count (d, o) (d', o') where
  stores := by rw [h.same]
  queue := by rw [h.same]
  held := keyOf?_alike h
  deeds := deed?_alike discreet h same
  results := result?_alike h same

/-- Whatever desks that are alike go through alike, they come out alike, and at no moment can they
be told apart. -/
theorem live_alike (discreet : ∀ text, (reconcile text).Alike Eq (reconcile text))
    {d d' : Desk α} (h : d.Alike d') {log log' : Chronicle α}
    (logs : List.Forall₂ (Indistinct reconcile count) log log')
    {happenings happenings' : List (Option (Happening α))}
    (same : List.Forall₂ (Option.Rel Happening.Alike) happenings happenings') :
    Option.Rel
      (fun r r' => r.1.Alike r'.1 ∧ List.Forall₂ (Indistinct reconcile count) r.2 r'.2)
      (d.live reconcile count log happenings) (d'.live reconcile count log' happenings') := by
  induction same generalizing d d' log log' with
  | nil => exact .some ⟨h, logs⟩
  | @cons o o' later later' first _ ih =>
    have occurs := occur_alike count discreet h first
    unfold live
    generalize d.occur reconcile count o = r, d'.occur reconcile count o' = r' at occurs
    cases occurs with
    | none => exact .none
    | some alike => exact ih alike.1 (.cons (h.indistinct discreet first) logs)

end lives

end Desk

/-- **Key pairs reach nothing but secrets.**  The desk of the accesses lives twice, from the same
stores, with any number of workers, any reports, keys and times, breakdowns, and shut down at any
time; the same happens to it both times, but that the grants that it is given may bring other key
pairs, and secrets that it reads may hold something else.  Then it comes as far both times, and at
every moment cache, records, queue and the keys that are held are the same, the same calls are made
and the same events published, and every reconcile ends with the same result; only the secrets that
are created may differ, and only in the two texts of the key pair. -/
theorem key_pairs_stay_secret (backends : Backend.Registry) (count : Nat) (policy : RetryPolicy)
    (stores : Stores BucketAccess)
    {happenings happenings' : List (Option (Happening BucketAccess))}
    (same : List.Forall₂ (Option.Rel Happening.Alike) happenings happenings') :
    Option.Rel
      (fun r r' => r.1.Alike r'.1 ∧
        List.Forall₂ (Desk.Indistinct (Accesses.reconcile backends) count) r.2 r'.2)
      ((Desk.opening policy stores).live (Accesses.reconcile backends) count [] happenings)
      ((Desk.opening policy stores).live (Accesses.reconcile backends) count [] happenings') := by
  have unstarted : (Desk.opening policy stores).Alike (Desk.opening policy stores) :=
    Desk.alike_refl fun i key rest is => by simp [Desk.opening, Desk.worker?] at is
  exact Desk.live_alike (Accesses.reconcile_alike backends) unstarted .nil same

/-! ## An access that is granted twice -/

/-- Everything succeeds, and a grant brings a key pair. -/
def grantsWith (pair : Resource.Credentials) : Replies
  | .getClass _ => .ok someClass
  | .backend _ (.grantAccess _ account) => .ok ⟨Backend.InMemory.accountIdOf account, pair⟩
  | .getSecret _ _ => .ok none
  | .createSecret _ _ => .ok ()
  | .writeAccessStatus access status => .ok (Plant.withAccessStatus access status)
  | _ => .error conflict

/-- Two backends that issue different key pairs answer likewise. -/
theorem grantsWith_likewise (pair pair' : Resource.Credentials) {c c' : Call} (calls : c.Alike c') :
    Likewise c c' (grantsWith pair c) (grantsWith pair' c') := by
  cases calls with
  | creates ns same => exact .created ns (.ok ())
  | same =>
    cases c with
    | backend backendType op =>
      cases op with
      | grantAccess bucketId account => exact .granted backendType bucketId account rfl
      | _ => exact .same _ _
    | _ => exact .same _ _

/-- An access is listed and granted with a key pair. -/
def grantedWith (pair : Resource.Credentials) : List (Option (Happening BucketAccess)) :=
  (opened [newAccess]).map some ++ List.replicate 14 (some (.move (.work 0 (grantsWith pair))))

/-- The two runs differ only in the key pairs of the grants. -/
theorem grantedWith_alike (pair pair' : Resource.Credentials) :
    List.Forall₂ (Option.Rel Happening.Alike) (grantedWith pair) (grantedWith pair') := by
  have aside : ∀ o ∈ (opened [newAccess]).map some, Option.Rel Happening.Alike o o := by
    intro o mem
    obtain ⟨h, there, rfl⟩ := List.mem_map.1 mem
    refine .some (.same h ?_)
    rintro i reply rfl
    simp [opened] at there
  have work : ∀ n, List.Forall₂ (Option.Rel (Happening.Alike (α := BucketAccess)))
      (List.replicate n (some (.move (.work 0 (grantsWith pair)))))
      (List.replicate n (some (.move (.work 0 (grantsWith pair'))))) := by
    intro n
    induction n with
    | zero => exact .nil
    | succ n ih => exact .cons (.some (.work 0 fun _ _ => grantsWith_likewise pair pair')) ih
  exact List.rel_append (List.forall₂_same.2 aside) (work 14)

/-- The secret for the access. -/
def newSecret (pair : Resource.Credentials) : Resource.Secret :=
  Resource.credentialsSecret newAccess "bucket-credentials-a" "b" none pair

/-- The secret is created with one key pair or with the other, and all else is the same. -/
theorem key_pairs_stay_secret_granted : ∃ r r',
    (Desk.opening {} {}).live (Accesses.reconcile oneType) 1 [] (grantedWith ⟨"A", "X"⟩) = some r ∧
    (Desk.opening {} {}).live (Accesses.reconcile oneType) 1 [] (grantedWith ⟨"B", "Y"⟩) = some r' ∧
    (∃ e, r.2[6]? = some e ∧ e.1.deed? (Accesses.reconcile oneType) 1 e.2 =
      some (.call "n/a" (.createSecret "n" (newSecret ⟨"A", "X"⟩)))) ∧
    (∃ e, r'.2[6]? = some e ∧ e.1.deed? (Accesses.reconcile oneType) 1 e.2 =
      some (.call "n/a" (.createSecret "n" (newSecret ⟨"B", "Y"⟩)))) ∧
    r.1.Alike r'.1 ∧
    List.Forall₂ (Desk.Indistinct (Accesses.reconcile oneType) 1) r.2 r'.2 := by
  have granted (pair : Resource.Credentials) : ∃ r,
      (Desk.opening {} {}).live (Accesses.reconcile oneType) 1 [] (grantedWith pair) = some r ∧
        ∃ e, r.2[6]? = some e ∧ e.1.deed? (Accesses.reconcile oneType) 1 e.2 =
          some (.call "n/a" (.createSecret "n" (newSecret pair))) :=
    ⟨_, by rfl, _, by rfl, by rfl⟩
  obtain ⟨r, lives, creates⟩ := granted ⟨"A", "X"⟩
  obtain ⟨r', lives', creates'⟩ := granted ⟨"B", "Y"⟩
  have both := key_pairs_stay_secret oneType 1 {} {}
    (grantedWith_alike ⟨"A", "X"⟩ ⟨"B", "Y"⟩)
  rw [lives, lives'] at both
  cases both with
  | some alike => exact ⟨r, r', lives, lives', creates, creates', alike⟩

end BucketProvisioning.Engine
