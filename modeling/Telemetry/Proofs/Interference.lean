import Telemetry.Program

/-!
Programs whose surroundings change between their questions. What a program ensures is said for every
change that the surroundings may make, and holds then of each run in which they make only those.
-/

namespace Telemetry.Program

variable {Question : Type} {Answer : Question → Type} {α β σ : Type}

/-- Makes changes one after the other. -/
def change (changes : List (σ → σ)) (state : σ) : σ :=
  changes.foldl (fun state one => one state) state

/-- Runs a program while the surroundings change: as listed first before the first question, as
listed next before the second, and by what is left of the list in the end. -/
def runAmid (handler : Handler Answer σ) : Program Answer α → List (List (σ → σ)) → σ → α × σ
  | .done result, changes, state => (result, change changes.flatten state)
  | .ask question next, changes, state =>
      let (answer, state) := handler question (change (changes.headD []) state)
      runAmid handler (next answer) changes.tail state

/-- Whatever of a kind the surroundings change between questions, the program ends so, and it stays
so. -/
def Ensures (handler : Handler Answer σ) (allowed : σ → σ → Prop) (post : α → σ → Prop) :
    Program Answer α → σ → Prop
  | .done result, state => ∀ later, allowed state later → post result later
  | .ask question next, state => ∀ later, allowed state later →
      Ensures handler allowed post (next (handler question later).1) (handler question later).2

variable {handler : Handler Answer σ} {allowed : σ → σ → Prop} {program : Program Answer α}
  {state : σ}

theorem runAmid_nil (program : Program Answer α) (state : σ) :
    runAmid handler program [] state = run handler program state := by
  induction program generalizing state with
  | done result => rfl
  | ask question next ih => exact ih _ _

theorem runAmid_ask (question : Question) (next : Answer question → Program Answer α)
    (changes : List (List (σ → σ))) (state : σ) :
    runAmid handler (.ask question next) changes state =
      runAmid handler (next (handler question (change (changes.headD []) state)).1) changes.tail
        (handler question (change (changes.headD []) state)).2 := rfl

theorem change_flatten (changes : List (List (σ → σ))) (state : σ) :
    change changes.flatten state =
      change changes.tail.flatten (change (changes.headD []) state) := by
  cases changes with
  | nil => rfl
  | cons first rest => exact List.foldl_append

theorem change_allowed (refl : ∀ state, allowed state state)
    (trans : ∀ {first second third}, allowed first second → allowed second third →
      allowed first third)
    {changes : List (σ → σ)} (each : ∀ one ∈ changes, ∀ state, allowed state (one state)) :
    allowed state (change changes state) := by
  induction changes generalizing state with
  | nil => exact refl state
  | cons first rest ih =>
      have others : allowed (first state) (change rest (first state)) :=
        ih fun one member => each one (List.mem_cons_of_mem _ member)
      exact trans (each first List.mem_cons_self state) others

namespace Ensures

theorem mono {post weaker : α → σ → Prop} (ensured : Ensures handler allowed post program state)
    (weaken : ∀ result later, post result later → weaker result later) :
    Ensures handler allowed weaker program state := by
  induction program generalizing state with
  | done result => exact fun later between => weaken result later (ensured later between)
  | ask question next ih => exact fun later between => ih _ (ensured later between)

theorem bind (refl : ∀ state, allowed state state) {next : α → Program Answer β}
    {post : β → σ → Prop}
    (ensured : Ensures handler allowed
      (fun result later => Ensures handler allowed post (next result) later) program state) :
    Ensures handler allowed post (program.bind next) state := by
  induction program generalizing state with
  | done result => exact ensured state (refl state)
  | ask question more ih => exact fun later between => ih _ (ensured later between)

/-- What a program ensures holds after a run amid changes of the kind. -/
theorem runAmid (refl : ∀ state, allowed state state)
    (trans : ∀ {first second third}, allowed first second → allowed second third →
      allowed first third)
    {post : α → σ → Prop} {changes : List (List (σ → σ))}
    (each : ∀ some ∈ changes, ∀ one ∈ some, ∀ state, allowed state (one state))
    (ensured : Ensures handler allowed post program state) :
    post (runAmid handler program changes state).1 (runAmid handler program changes state).2 := by
  induction program generalizing state changes with
  | done result =>
      refine ensured _ (change_allowed refl trans ?_)
      intro one member
      obtain ⟨some, inChanges, inSome⟩ := List.mem_flatten.mp member
      exact each some inChanges one inSome
  | ask question next ih =>
      rw [runAmid_ask]
      refine ih _ (fun some member => each some (List.mem_of_mem_tail member)) (ensured _ ?_)
      refine change_allowed refl trans ?_
      cases changes with
      | nil => exact fun one member => by cases member
      | cons first rest => exact each first List.mem_cons_self

end Ensures

end Telemetry.Program
