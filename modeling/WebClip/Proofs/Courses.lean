import WebClip.Proofs.Resolving
/-!
# Courses of calls

Above the single moves, resolving images and sweeping blocks are courses of calls: a part of some
children is listed, an image is downloaded, moved into an upload, or a block is changed, and in
between the states of images are noted. `Follows` says of an action what courses it takes.
-/

namespace WebClip

open Act

/-- A call with what came of it, or a state noted of an image. -/
inductive Deed where
  | noted (url : String) (state : ImageState)
  | listed (parent cursor : Value) (o : Except Fault Value)
  | downloaded (url : String) (o : Except Fault Download)
  | uploaded (image : Download) (o : Except Fault Value)
  | updated (id : Value) (payload : List (String × Value)) (o : Except Fault Value)

namespace Deed

/-- The state of an image that is noted, if one is. -/
def note? : Deed → Option (String × ImageState)
  | noted url state => some (url, state)
  | _ => none

/-- The download that is made, if one is. -/
def download? : Deed → Option (String × Except Fault Download)
  | downloaded url o => some (url, o)
  | _ => none

/-- The upload that is made, if one is. -/
def upload? : Deed → Option (Download × Except Fault Value)
  | uploaded image o => some (image, o)
  | _ => none

/-- Whether nothing is called on, but only a state noted. -/
def isNote (d : Deed) : Bool := d.note?.isSome

end Deed

variable {σ τ : Type} [Clock τ]

namespace Session

/-- What each deed makes of a session. -/
inductive Makes (c : Clipper σ τ) : Session σ τ → Deed → Session σ τ → Prop
  | noted (s url state) : Makes c s (.noted url state) { s with transitions := (url, state) :: s.transitions }
  | listed {s t parent cursor o} : carryOut (Service.children parent cursor) c s = (o, t) →
    Makes c s (.listed parent cursor o) t
  | downloaded {s t url o} : carryOut (Download.run url) c s = (o, t) → Makes c s (.downloaded url o) t
  | uploaded {s t image o} :
    carryOut (Service.upload image.url image.fileName image.contentType image.content) c s = (o, t) →
    Makes c s (.uploaded image o) t
  | updated {s t id payload o} : carryOut (Service.update id payload) c s = (o, t) →
    Makes c s (.updated id payload o) t

/-- The deeds by which a session becomes another. What is told on the way is left out. -/
inductive Course (c : Clipper σ τ) : Session σ τ → List Deed → Session σ τ → Prop
  | nil (s) : Course c s [] s
  | told {s t : Session σ τ} {ds : List Deed} (ns : List Notice) :
    Course c { s with notices := ns ++ s.notices } ds t → Course c s ds t
  | cons {s t u : Session σ τ} {d : Deed} {ds : List Deed} : Makes c s d t → Course c t ds u → Course c s (d :: ds) u

variable {c : Clipper σ τ} {s t u : Session σ τ} {d : Deed} {ds es : List Deed}

theorem Course.single (h : Makes c s d t) : Course c s [d] t := .cons h (.nil t)

theorem Course.append (h : Course c s ds t) (h' : Course c t es u) : Course c s (ds ++ es) u := by
  induction h with
  | nil => exact h'
  | told ns _ ih => exact .told ns (ih h')
  | cons hd _ ih => exact .cons hd (ih h')

/-- A course starts with its first deed, once something has been told. -/
theorem Course.head (h : Course c s (d :: ds) u) :
    ∃ s' t, s'.outside = s.outside ∧ Makes c s' d t ∧ Course c t ds u := by
  generalize hall : d :: ds = all at h
  induction h with
  | nil => cases hall
  | told ns _ ih =>
    obtain ⟨s', t, hs', hd, hrest⟩ := ih hall
    exact ⟨s', t, hs', hd, hrest⟩
  | cons hd hrest _ =>
    cases hall
    exact ⟨_, _, rfl, hd, hrest⟩

/-- A course can be parted anywhere. -/
theorem Course.split (h : Course c s (ds ++ es) u) : ∃ t, Course c s ds t ∧ Course c t es u := by
  generalize hall : ds ++ es = all at h
  induction h generalizing ds with
  | nil s =>
    obtain ⟨rfl, rfl⟩ := List.append_eq_nil_iff.1 hall
    exact ⟨s, .nil s, .nil s⟩
  | told ns _ ih =>
    obtain ⟨t, hbefore, hafter⟩ := ih hall
    exact ⟨t, .told ns hbefore, hafter⟩
  | @cons s t u d rest hd hrest ih =>
    cases ds with
    | nil =>
      obtain rfl : es = d :: rest := hall
      exact ⟨s, .nil s, .cons hd hrest⟩
    | cons e ds =>
      obtain ⟨rfl, rfl⟩ := List.cons.inj hall
      obtain ⟨t, hbefore, hafter⟩ := ih rfl
      exact ⟨t, .cons hd hbefore, hafter⟩

/-! ## The lives of images -/

/-- An action that notes nothing leaves the lives of images as they are. -/
theorem transitions_of_ensures {α : Type} {Q : List Move → Except Fault α → Prop} {a : Act σ τ α}
    (ha : Ensures c Q a) (hQ : ∀ ms r, Q ms r → ∀ m ∈ ms, m.noted? = none) (s : Session σ τ) :
    (carryOut a c s).2.transitions = s.transitions := by
  obtain ⟨ms, hp, hq⟩ := ha s
  rw [hp.transitions, List.filterMap_eq_nil_iff.2 (hQ ms _ hq)]
  rfl

theorem transitions_of_ask (r : Request) (s : Session σ τ) : (carryOut (ask r) c s).2.transitions = s.transitions := by
  refine transitions_of_ensures (ask_ensures r) ?_ s
  rintro _ _ (⟨ns, e, rfl, -, -⟩ | ⟨w, rfl, -⟩) <;> simp [Move.noted?]

/-- A deed adds what it notes to the lives of images, and nothing else does. -/
theorem Makes.transitions (h : Makes c s d t) : t.transitions = d.note?.toList ++ s.transitions := by
  cases h with
  | noted url state => rfl
  | listed h | updated h => exact (congrArg (·.2.transitions) h).symm.trans (transitions_of_ask _ s)
  | @downloaded _ url _ h =>
    have hfetch : Does c (fun m => m.noted? = none) (Download.Fetched c url) (Download.run url) :=
      Download.run_does (fun _ _ => rfl) url
    exact (congrArg (·.2.transitions) h).symm.trans (transitions_of_ensures hfetch (fun _ _ hq => hq.1) s)
  | uploaded h =>
    refine (congrArg (·.2.transitions) h).symm.trans (transitions_of_ensures (upload_does _ _ _ _) ?_ s)
    intro ms _ hq m hm
    cases m with
    | noted => exact (hq.1 _ hm).elim
    | _ => rfl

/-- A course adds what it notes to the lives of images. -/
theorem Course.transitions (h : Course c s ds t) :
    t.transitions = (ds.filterMap Deed.note?).reverse ++ s.transitions := by
  induction h with
  | nil => rfl
  | told _ _ ih => exact ih
  | @cons _ _ _ d _ hd _ ih =>
    rw [ih, hd.transitions]
    cases hn : d.note? <;> simp [hn]

/-- A course of notes reaches nothing outside. -/
theorem Course.nothing_reached (h : Course c s ds t) (hn : ∀ d ∈ ds, d.isNote = true) :
    t.events = s.events ∧ t.outside = s.outside := by
  induction h with
  | nil => exact ⟨rfl, rfl⟩
  | told _ _ ih => exact ih hn
  | cons hd _ ih =>
    obtain ⟨hnote, hrest⟩ := List.forall_mem_cons.1 hn
    obtain ⟨hevents, houtside⟩ := ih hrest
    cases hd with
    | noted => exact ⟨hevents, houtside⟩
    | _ => cases hnote

/-- A listing that was made has been refused by the budget, or it comes to what the service answers. -/
theorem Course.of_listed (h : Course c s ds t) {parent cursor : Value} {o : Except Fault Value}
    (hd : .listed parent cursor o ∈ ds) :
    (∃ e, o = .error (.clip e) ∧ e.kind = .rateLimit) ∨
      ∃ w, o = (c.outside.ask (.children parent (.int maxBatch) cursor) w).1.outcome "blocks.children.list" := by
  induction h with
  | nil => cases hd
  | told _ _ ih => exact ih hd
  | cons hmakes _ ih =>
    rcases List.mem_cons.1 hd with rfl | hd
    · cases hmakes with
      | listed hcarry =>
        obtain ⟨ms, -, hq⟩ := ask_ensures (c := c) (.children parent (.int maxBatch) cursor) _
        rw [show carryOut (ask (.children parent (.int maxBatch) cursor)) c _ = _ from hcarry] at hq
        rcases hq with ⟨-, e, -, ho, he⟩ | ⟨w, -, ho⟩
        · exact .inl ⟨e, ho, he⟩
        · exact .inr ⟨w, ho⟩
    · exact ih hd

end Session

/-! ## Actions and their courses -/

namespace Act

variable {α β : Type}

/-- From every session the action follows a course that, with the result, satisfies `Q`. -/
def Follows (c : Clipper σ τ) (Q : List Deed → Except Fault α → Prop) (a : Act σ τ α) : Prop :=
  ∀ s, ∃ ds, Session.Course c s ds (carryOut a c s).2 ∧ Q ds (carryOut a c s).1

namespace Follows

variable {c : Clipper σ τ} {Q R : List Deed → Except Fault α → Prop} {S : List Deed → Except Fault β → Prop}

theorem mono {a : Act σ τ α} (ha : Follows c Q a) (h : ∀ ds r, Q ds r → R ds r) : Follows c R a := by
  intro s
  obtain ⟨ds, hc, hq⟩ := ha s
  exact ⟨ds, hc, h _ _ hq⟩

/-- What is known of the result on other grounds holds beside what is known of the course. -/
theorem and_result {R : Except Fault α → Prop} {a : Act σ τ α} (ha : Follows c Q a) (hR : ∀ s, R (carryOut a c s).1) :
    Follows c (fun ds r => Q ds r ∧ R r) a := by
  intro s
  obtain ⟨ds, hc, hq⟩ := ha s
  exact ⟨ds, hc, hq, hR s⟩

theorem pure {x : α} (h : Q [] (.ok x)) : Follows c Q (Pure.pure x) := fun s => ⟨[], .nil s, h⟩

theorem throw {e : Fault} (h : Q [] (.error e)) : Follows c Q (throw e) := fun s => ⟨[], .nil s, h⟩

theorem orFault {r : Except Fault α} (h : Q [] r) : Follows c Q (Act.orFault r) := by
  intro s
  rw [carryOut_orFault]
  exact ⟨[], .nil s, h⟩

theorem bind {a : Act σ τ α} {f : α → Act σ τ β} (ha : Follows c Q a)
    (he : ∀ ds e, Q ds (.error e) → S ds (.error e))
    (hf : ∀ ds x, Q ds (.ok x) → Follows c (fun es r => S (ds ++ es) r) (f x)) : Follows c S (a >>= f) := by
  intro s
  obtain ⟨ds, hc, hq⟩ := ha s
  rw [carryOut_bind]
  -- the second part starts where the course of the first has led
  rcases hr : carryOut a c s with ⟨e | x, t⟩ <;> rw [hr] at hc hq
  · exact ⟨ds, hc, he ds e hq⟩
  · obtain ⟨es, hc', hs⟩ := hf ds x hq t
    exact ⟨ds ++ es, hc.append hc', hs⟩

/-- First an action whose faults are caught. -/
theorem bind_attempt {a : Act σ τ α} {f : Except Fault α → Act σ τ β} (ha : Follows c Q a)
    (hf : ∀ ds o, Q ds o → Follows c (fun es r => S (ds ++ es) r) (f o)) : Follows c S (Act.attempt a >>= f) := by
  intro s
  obtain ⟨ds, hc, hq⟩ := ha s
  rw [carryOut_bind, carryOut_attempt]
  obtain ⟨es, hc', hs⟩ := hf ds _ hq (carryOut a c s).2
  exact ⟨ds ++ es, hc.append hc', hs⟩

/-- First a value that may be a fault. -/
theorem bind_orFault {r : Except Fault α} {f : α → Act σ τ β} (he : ∀ e, r = .error e → S [] (.error e))
    (hf : ∀ x, r = .ok x → Follows c S (f x)) : Follows c S (Act.orFault r >>= f) := by
  refine .bind (.orFault (Q := fun ds r' => ds = [] ∧ r' = r) ⟨rfl, rfl⟩) ?_ ?_
  · rintro _ e ⟨rfl, h⟩
    exact he e h.symm
  · rintro _ x ⟨rfl, h⟩
    exact hf x h.symm

/-- First a look at what the clipper works with. -/
theorem bind_read {f : Clipper σ τ → Act σ τ β} (hf : Follows c S (f c)) :
    Follows c S (MonadReader.read >>= f) := by
  intro s
  rw [carryOut_bind, carryOut_read]
  exact hf s

/-- First something told, which is no deed. -/
theorem bind_tell {n : Notice} {f : Unit → Act σ τ β} (hf : Follows c S (f ())) : Follows c S (Act.tell n >>= f) := by
  intro s
  rw [carryOut_bind, carryOut_tell]
  obtain ⟨ds, hc, hs⟩ := hf { s with notices := n :: s.notices }
  exact ⟨ds, .told [n] hc, hs⟩

/-- First a state noted of an image. -/
theorem bind_note {url : String} {state : ImageState} {f : Unit → Act σ τ β}
    (hf : Follows c (fun ds r => S (.noted url state :: ds) r) (f ())) : Follows c S (Act.note url state >>= f) := by
  intro s
  obtain ⟨ds, hc, hs⟩ := hf { s with transitions := (url, state) :: s.transitions }
  exact ⟨_, .cons (.noted s url state) hc, hs⟩

/-! ### Calls -/

theorem list (parent cursor : Value) :
    Follows c (fun ds r => ds = [.listed parent cursor r]) (Service.children parent cursor) :=
  fun _ => ⟨_, .single (.listed rfl), rfl⟩

theorem update (id : Value) (payload : List (String × Value)) :
    Follows c (fun ds r => ds = [.updated id payload r]) (Service.update id payload) :=
  fun _ => ⟨_, .single (.updated rfl), rfl⟩

theorem upload (image : Download) :
    Follows c (fun ds r => ds = [.uploaded image r])
      (Service.upload image.url image.fileName image.contentType image.content) :=
  fun _ => ⟨_, .single (.uploaded rfl), rfl⟩

/-- A download finds the image of its own URL. -/
theorem download (url : String) :
    Follows c (fun ds r => ds = [.downloaded url r] ∧ ∀ image, r = .ok image → image.url = url) (Download.run url) := by
  intro s
  have hfetch : Does c (fun _ => True) (Download.Fetched c url) (Download.run url) :=
    Download.run_does (fun _ _ => trivial) url
  obtain ⟨-, -, -, -, hurl⟩ := hfetch s
  exact ⟨_, .single (.downloaded rfl), rfl, hurl⟩

end Follows

end Act

end WebClip
