import CreativeBackend.Tickets.Trails

/-!
# The names of pictures

Every row names a picture of its own, and what a call has drawn and not yet upserted is named by no
row and was read by no call. A row that a call has read and then replaced is named by none either.
-/

namespace CreativeBackend.Tickets

open Relational Interaction TicketStore DigitalTicketImageService

/-- The name has been drawn. -/
def TicketStore.Drawn (s : TicketStore) (uuid : String) : Prop :=
  ∃ n < s.uuids, uuid = (fresh n : Id)

theorem resolve_of_drawn {s : TicketStore} {uuid : String} (h : s.Drawn uuid) :
    resolveGeneratedRelativePath (some (generatedPath uuid)) = some (generatedFile uuid) := by
  obtain ⟨n, -, rfl⟩ := h
  exact resolveGeneratedRelativePath_generatedPath (isFilenameChar_fresh n)

theorem deletedPath_of_drawn {s : TicketStore} {uuid : String} (h : s.Drawn uuid) :
    deletedPath (some (generatedPath uuid)) GENERATED_TICKET_DIR = .ok (generatedFile uuid) := by
  obtain ⟨n, -, rfl⟩ := h
  exact deletedPath_generatedPath (isFilenameChar_fresh n)

/-- The row names a file that exists and is written. -/
def TicketStore.Shown (s : TicketStore) (i : DigitalTicketImage) : Prop :=
  ∃ path f, resolveGeneratedRelativePath (some i.relativePath) = some path ∧
    s.fileAt path = some f ∧ 0 < f.png.size

/-- Every row names a picture, and no two rows name the same one. -/
structure RowsNamed (s : TicketStore) : Prop where
  drawn : ∀ i ∈ s.images.rows, ∃ uuid, s.Drawn uuid ∧ i.relativePath = generatedPath uuid
  unique : ∀ i ∈ s.images.rows, ∀ j ∈ s.images.rows, i.relativePath = j.relativePath → i = j

namespace Trail

variable {tr tr' : Trail}

/-- The call has drawn the name and no row has it yet. -/
def Pending (tr : Trail) (uuid : String) : Prop := tr.uuid = some uuid ∧ tr.upserted = none

/-- The call has read the row. -/
def Knows (tr : Trail) (i : DigitalTicketImage) : Prop := tr.read = some i ∨ tr.displaced = some i

/-- What the store says of the trail of a call. -/
structure Fits (s : TicketStore) (tr : Trail) : Prop where
  drawn : ∀ uuid, tr.uuid = some uuid → s.Drawn uuid
  pending : ∀ uuid, tr.Pending uuid → ∀ i ∈ s.images.rows, i.relativePath ≠ generatedPath uuid
  known : ∀ i, tr.Knows i → ∃ uuid, s.Drawn uuid ∧ i.relativePath = generatedPath uuid
  read : ∀ i, tr.read = some i →
    tr.ticket = some (i.registrationId, i.templateId, i.templateVersion) ∧
      ∀ j ∈ s.images.rows, j.relativePath = i.relativePath → i.sameTicket j = true
  displaced : ∀ i, tr.displaced = some i → (∀ j ∈ s.images.rows, j.relativePath ≠ i.relativePath) ∧
    ∀ data, tr.upserted = some data → i.relativePath ≠ data.relativePath

/-- What one call has drawn and not upserted, the other has not read. -/
def Unknown (tr tr' : Trail) : Prop :=
  ∀ uuid, tr.Pending uuid → ∀ i, tr'.Knows i → i.relativePath ≠ generatedPath uuid

/-- Two calls have drawn different names. -/
def Apart (tr tr' : Trail) : Prop := ∀ uuid, tr.uuid = some uuid → tr'.uuid ≠ some uuid

end Trail

/-- The names that rows and calls have. -/
structure Names (s : TicketStore) (T : Nat → Trail) : Prop where
  rows : RowsNamed s
  fits : ∀ t, (T t).Fits s
  unknown : ∀ t t', (T t).Unknown (T t')
  apart : ∀ t t', t ≠ t' → (T t).Apart (T t')

/-- The names are a matter of the rows and of the names drawn. -/
theorem Names.congr {s s' : TicketStore} {T : Nat → Trail} (h : Names s T)
    (himages : s'.images = s.images) (huuids : s'.uuids = s.uuids) : Names s' T := by
  have hdrawn : s'.Drawn = s.Drawn := by
    funext uuid
    rw [TicketStore.Drawn, TicketStore.Drawn, huuids]
  constructor
  · constructor
    · rw [himages, hdrawn]
      exact h.rows.drawn
    · rw [himages]
      exact h.rows.unique
  · intro t
    have hfits := h.fits t
    constructor
    · rw [hdrawn]
      exact hfits.drawn
    · rw [himages]
      exact hfits.pending
    · rw [hdrawn]
      exact hfits.known
    · rw [himages]
      exact hfits.read
    · rw [himages]
      exact hfits.displaced
  · exact h.unknown
  · exact h.apart

section Steps

variable {s s' : TicketStore} {T : Nat → Trail} {t : Nat} {tr : Trail}

/-- One call has moved on, and the rows and the names drawn are as they were. -/
theorem Names.move (h : Names s T) (huuid : tr.uuid = (T t).uuid) (hfits : tr.Fits s)
    (hunknown : ∀ t', t' ≠ t → (T t').Unknown tr ∧ tr.Unknown (T t')) (hself : tr.Unknown tr) :
    Names s (Function.update T t tr) where
  rows := h.rows
  fits t' := by
    by_cases ht : t' = t
    · subst ht
      rwa [Function.update_self]
    · rw [Function.update_of_ne ht]
      exact h.fits t'
  unknown t₁ t₂ := by
    by_cases h₁ : t₁ = t
    · subst h₁
      by_cases h₂ : t₂ = t₁
      · subst h₂
        rwa [Function.update_self]
      · rw [Function.update_self, Function.update_of_ne h₂]
        exact (hunknown t₂ h₂).2
    · by_cases h₂ : t₂ = t
      · subst h₂
        rw [Function.update_self, Function.update_of_ne h₁]
        exact (hunknown t₁ h₁).1
      · rw [Function.update_of_ne h₁, Function.update_of_ne h₂]
        exact h.unknown t₁ t₂
  apart t₁ t₂ hne := by
    by_cases h₁ : t₁ = t
    · subst h₁
      rw [Function.update_self, Function.update_of_ne (Ne.symm hne)]
      intro uuid hu
      exact h.apart t₁ t₂ hne uuid (huuid ▸ hu)
    · by_cases h₂ : t₂ = t
      · subst h₂
        rw [Function.update_self, Function.update_of_ne h₁]
        intro uuid hu
        rw [huuid]
        exact h.apart t₁ t₂ hne uuid hu
      · rw [Function.update_of_ne h₁, Function.update_of_ne h₂]
        exact h.apart t₁ t₂ hne

/-- A call has looked for the row of a ticket. -/
theorem Names.find (h : Names s T) (hidle : (T t).Idle) (registrationId templateId : Id)
    (version : Nat) :
    Names s (Function.update T t { T t with
      ticket := some (registrationId, templateId, version)
      read := s.imageOf registrationId templateId version }) := by
  have hknows : ∀ i, Trail.Knows { T t with
      ticket := some (registrationId, templateId, version)
      read := s.imageOf registrationId templateId version } i → i ∈ s.images.rows := by
    rintro i (hread | hdisplaced)
    · exact (imageOf_eq_some hread).1
    · exact absurd (hidle.displaced.symm.trans hdisplaced) (by simp)
  have hnone : ∀ uuid, ¬ Trail.Pending { T t with
      ticket := some (registrationId, templateId, version)
      read := s.imageOf registrationId templateId version } uuid := by
    rintro uuid ⟨huuid, -⟩
    exact absurd (hidle.uuid.symm.trans huuid) (by simp)
  refine h.move ?_ ?_ ?_ ?_
  · rfl
  · constructor
    · exact (h.fits t).drawn
    · exact fun uuid hpending => absurd hpending (hnone uuid)
    · exact fun i hi => h.rows.drawn i (hknows i hi)
    · intro i hread
      obtain ⟨hi, rfl, rfl, rfl⟩ := imageOf_eq_some hread
      refine ⟨rfl, fun j hj hpath => ?_⟩
      rw [h.rows.unique j hj i hi hpath]
      exact sameTicket_iff.mpr ⟨rfl, rfl, rfl⟩
    · intro i hdisplaced
      exact absurd (hidle.displaced.symm.trans hdisplaced) (by simp)
  · intro t' _
    constructor
    · exact fun uuid hpending i hi => (h.fits t').pending uuid hpending i (hknows i hi)
    · exact fun uuid hpending => absurd hpending (hnone uuid)
  · exact fun uuid hpending => absurd hpending (hnone uuid)

/-- A call has written its picture or tried to delete one. -/
theorem Names.note (h : Names s T) (written unlinked : Bool) :
    Names s (Function.update T t { T t with written, unlinked }) := by
  refine h.move ?_ ?_ ?_ ?_
  · rfl
  · exact ⟨(h.fits t).drawn, (h.fits t).pending, (h.fits t).known, (h.fits t).read,
      (h.fits t).displaced⟩
  · exact fun t' _ => ⟨h.unknown t' t, h.unknown t t'⟩
  · exact h.unknown t t

/-- A call has drawn a name. -/
theorem Names.draw (h : Names s T) (hidle : (T t).Idle) (himages : s'.images = s.images)
    (huuids : s'.uuids = s.uuids + 1) :
    Names s' (Function.update T t { T t with uuid := some (fresh s.uuids) }) := by
  have hdrawn : ∀ uuid, s.Drawn uuid → s'.Drawn uuid := by
    rintro uuid ⟨n, hn, rfl⟩
    exact ⟨n, by omega, rfl⟩
  have hnew : ∀ uuid, s.Drawn uuid → uuid ≠ (fresh s.uuids : Id) := by
    rintro uuid ⟨n, hn, rfl⟩ heq
    have hsame := fresh_injective heq
    omega
  have hfits : ∀ tr, Trail.Fits s tr → Trail.Fits s' tr := by
    intro tr hfits
    exact ⟨fun uuid hu => hdrawn uuid (hfits.drawn uuid hu), himages ▸ hfits.pending,
      fun i hi => (hfits.known i hi).imp fun uuid hu => ⟨hdrawn uuid hu.1, hu.2⟩,
      himages ▸ hfits.read, himages ▸ hfits.displaced⟩
  have hrows : ∀ i ∈ s.images.rows, i.relativePath ≠ generatedPath (fresh s.uuids) := by
    intro i hi heq
    obtain ⟨uuid, hu, hpath⟩ := h.rows.drawn i hi
    exact hnew uuid hu (generatedPath_inj.mp (hpath.symm.trans heq))
  have hknown : ∀ t' i, (T t').Knows i → i.relativePath ≠ generatedPath (fresh s.uuids) := by
    intro t' i hi heq
    obtain ⟨uuid, hu, hpath⟩ := (h.fits t').known i hi
    exact hnew uuid hu (generatedPath_inj.mp (hpath.symm.trans heq))
  have hpending : ∀ uuid, Trail.Pending { T t with uuid := some (fresh s.uuids) } uuid →
      uuid = fresh s.uuids := fun uuid hp => (Option.some.inj hp.1).symm
  constructor
  · constructor
    · rw [himages]
      exact fun i hi => (h.rows.drawn i hi).imp fun uuid hu => ⟨hdrawn uuid hu.1, hu.2⟩
    · rw [himages]
      exact h.rows.unique
  · intro t'
    by_cases ht : t' = t
    · subst ht
      rw [Function.update_self]
      have hold := hfits _ (h.fits t')
      refine ⟨?_, ?_, hold.known, hold.read, hold.displaced⟩
      · rintro uuid hu
        cases hu
        exact ⟨s.uuids, by omega, rfl⟩
      · intro uuid hp i hi
        rw [hpending uuid hp]
        exact hrows i (himages ▸ hi)
    · rw [Function.update_of_ne ht]
      exact hfits _ (h.fits t')
  · intro t₁ t₂ uuid hp i hi
    have hi' : (T t₂).Knows i := by
      by_cases h₂ : t₂ = t
      · subst h₂
        rwa [Function.update_self] at hi
      · rwa [Function.update_of_ne h₂] at hi
    by_cases h₁ : t₁ = t
    · subst h₁
      rw [Function.update_self] at hp
      rw [hpending uuid hp]
      exact hknown t₂ i hi'
    · rw [Function.update_of_ne h₁] at hp
      exact h.unknown t₁ t₂ uuid hp i hi'
  · intro t₁ t₂ hne uuid hu
    by_cases h₁ : t₁ = t
    · subst h₁
      rw [Function.update_self] at hu
      rw [Function.update_of_ne (Ne.symm hne)]
      intro hu'
      exact hnew uuid ((h.fits t₂).drawn uuid hu') (Option.some.inj hu).symm
    · rw [Function.update_of_ne h₁] at hu
      by_cases h₂ : t₂ = t
      · subst h₂
        rw [Function.update_self]
        intro hu'
        exact hnew uuid ((h.fits t₁).drawn uuid hu) (Option.some.inj hu').symm
      · rw [Function.update_of_ne h₂]
        exact h.apart t₁ t₂ hne uuid hu

/-- A call has upserted the row of its ticket. -/
theorem Names.upsert (h : Names s T) {data row : DigitalTicketImage} {uuid : String}
    (hpending : (T t).Pending uuid) (hpath : data.relativePath = generatedPath uuid)
    (hticket : (T t).ticket = some (data.registrationId, data.templateId, data.templateVersion))
    (hs : Upserted s data row s') :
    Names s' (Function.update T t { T t with
      upserted := some data
      displaced := (T t).read }) := by
  have hrow : row.relativePath = generatedPath uuid := hs.path.trans hpath
  have hfits := h.fits t
  have hdrawn : s'.Drawn = s.Drawn := by
    obtain ⟨images, rfl⟩ := hs.frame
    rfl
  have hold : ∀ i ∈ s.images.rows, i.relativePath ≠ row.relativePath := by
    intro i hi
    rw [hrow]
    exact hfits.pending uuid hpending i hi
  -- What a call knows is not named by the new row.
  have hknown : ∀ t' i, (T t').Knows i → i.relativePath ≠ row.relativePath := by
    intro t' i hi
    rw [hrow]
    exact h.unknown t t' uuid hpending i hi
  have hrows : RowsNamed s' := by
    constructor
    · intro i hi
      rw [hdrawn]
      rcases (hs.rows i).mp hi with ⟨hi, -⟩ | rfl
      · exact h.rows.drawn i hi
      · exact ⟨uuid, hfits.drawn uuid hpending.1, hrow⟩
    · intro i hi j hj hsame
      rcases (hs.rows i).mp hi with ⟨hi, -⟩ | rfl
      · rcases (hs.rows j).mp hj with ⟨hj, -⟩ | rfl
        · exact h.rows.unique i hi j hj hsame
        · exact absurd hsame (hold i hi)
      · rcases (hs.rows j).mp hj with ⟨hj, -⟩ | rfl
        · exact absurd hsame.symm (hold j hj)
        · rfl
  have hother : ∀ t', t' ≠ t → (T t').Fits s' := by
    intro t' ht'
    have hfits' := h.fits t'
    refine ⟨hdrawn ▸ hfits'.drawn, ?_, hdrawn ▸ hfits'.known, ?_, ?_⟩
    · intro u hp i hi
      rcases (hs.rows i).mp hi with ⟨hi, -⟩ | rfl
      · exact hfits'.pending u hp i hi
      · rw [hrow]
        intro heq
        rw [generatedPath_inj.mp heq] at hpending
        exact h.apart t' t ht' u hp.1 hpending.1
    · intro i hi
      refine ⟨(hfits'.read i hi).1, fun j hj hsame => ?_⟩
      rcases (hs.rows j).mp hj with ⟨hj, -⟩ | rfl
      · exact (hfits'.read i hi).2 j hj hsame
      · exact absurd hsame.symm (hknown t' i (.inl hi))
    · intro i hi
      refine ⟨fun j hj hsame => ?_, (hfits'.displaced i hi).2⟩
      rcases (hs.rows j).mp hj with ⟨hj, -⟩ | rfl
      · exact (hfits'.displaced i hi).1 j hj hsame
      · exact hknown t' i (.inr hi) hsame.symm
  have hself : Trail.Fits s' { T t with
      upserted := some data
      displaced := (T t).read } := by
    refine ⟨hdrawn ▸ hfits.drawn, ?_, ?_, ?_, ?_⟩
    · rintro u ⟨-, hnone⟩
      cases hnone
    · intro i hi
      rw [hdrawn]
      exact hfits.known i (.inl (hi.elim id id))
    · intro i hi
      refine ⟨(hfits.read i hi).1, fun j hj hsame => ?_⟩
      rcases (hs.rows j).mp hj with ⟨hj, -⟩ | rfl
      · exact (hfits.read i hi).2 j hj hsame
      · exact absurd hsame.symm (hknown t i (.inl hi))
    · intro i hi
      have hread : (T t).read = some i := hi
      constructor
      · -- A row with the old path would be the one that was replaced.
        intro j hj hsame
        rcases (hs.rows j).mp hj with ⟨hj, hnot⟩ | rfl
        · obtain ⟨hr, ht, hv⟩ := sameTicket_iff.mp ((hfits.read i hread).2 j hj hsame)
          have hkey := (hfits.read i hread).1.symm.trans hticket
          obtain ⟨hr', hkey⟩ := Prod.mk.inj (Option.some.inj hkey)
          obtain ⟨ht', hv'⟩ := Prod.mk.inj hkey
          rw [sameTicket_iff.mpr ⟨hr'.symm.trans hr, ht'.symm.trans ht, hv'.symm.trans hv⟩] at hnot
          cases hnot
        · exact hknown t i (.inl hread) hsame.symm
      · intro d hd
        cases hd
        rw [hpath, ← hrow]
        exact hknown t i (.inl hread)
  have hknows : ∀ t' i, (Function.update T t { T t with
      upserted := some data
      displaced := (T t).read } t').Knows i → (T t').Knows i := by
    intro t' i hi
    by_cases ht : t' = t
    · subst ht
      rw [Function.update_self] at hi
      exact .inl (hi.elim id id)
    · rwa [Function.update_of_ne ht] at hi
  constructor
  · exact hrows
  · intro t'
    by_cases ht : t' = t
    · subst ht
      rwa [Function.update_self]
    · rw [Function.update_of_ne ht]
      exact hother t' ht
  · intro t₁ t₂ u hp i hi
    by_cases h₁ : t₁ = t
    · subst h₁
      rw [Function.update_self] at hp
      cases hp.2
    · rw [Function.update_of_ne h₁] at hp
      exact h.unknown t₁ t₂ u hp i (hknows t₂ i hi)
  · have huuid : ∀ t', (Function.update T t { T t with
        upserted := some data
        displaced := (T t).read } t').uuid = (T t').uuid := by
      intro t'
      by_cases ht : t' = t
      · subst ht
        rw [Function.update_self]
      · rw [Function.update_of_ne ht]
    intro t₁ t₂ hne u hu
    rw [huuid] at hu ⊢
    exact h.apart t₁ t₂ hne u hu

end Steps

/-! ## Steps -/

/-- What a call does to the rows, the names and the files, and how its trail goes on. -/
inductive Moves (strict : Prop) (s : TicketStore) (tr : Trail) : TicketStore → Trail → Prop
  | quiet {s'} (himages : s'.images = s.images) (huuids : s'.uuids = s.uuids)
      (hfiles : s'.files = s.files) : Moves strict s tr s' tr
  | find {registrationId templateId version} (hidle : tr.Idle) :
      Moves strict s tr s { tr with
        ticket := some (registrationId, templateId, version)
        read := s.imageOf registrationId templateId version }
  | draw (hidle : tr.Idle) :
      Moves strict s tr { s with uuids := s.uuids + 1 } { tr with uuid := some (fresh s.uuids) }
  | write {uuid png} (hpending : tr.Pending uuid) (hpng : 0 < png.size) :
      Moves strict s tr (s.writeFile (generatedFile uuid) png) { tr with written := true }
  | upsert {data row uuid s'} (hwritten : tr.written = true) (hpending : tr.Pending uuid)
      (hpath : data.relativePath = generatedPath uuid)
      (hticket : tr.ticket = some (data.registrationId, data.templateId, data.templateVersion))
      (hs : Upserted s data row s') :
      Moves strict s tr s' { tr with upserted := some data, displaced := tr.read }
  | unlink {old path s'} (hupserted : tr.upserted.isSome = true) (hold : tr.displaced = some old)
      (hpath : deletedPath (some old.relativePath)
        DigitalTicketImageService.GENERATED_TICKET_DIR = .ok path)
      (hs : s' = (s.unlink path).2 ∨ ¬ strict ∧ s' = s) :
      Moves strict s tr s' { tr with unlinked := true }

theorem moves_of_outcome {rt : Runtime} {strict : Prop} {c : TicketCall}
    {x : Except Exn (TicketResp c)} {s s' : TicketStore} {log : List TicketEvent}
    (hrule : ticketRule log c) (ho : (ticketService rt strict).Outcome c s x s') :
    Moves strict s (trail log) s' ((trail log).after c x) := by
  rcases ho with ⟨ch, hstep⟩ | ⟨hfaulty, rfl, e, rfl⟩
  · cases c with
    | base c =>
        cases hstep
        exact .quiet rfl rfl rfl
    | imageFind registrationId templateId version =>
        cases hstep
        exact .find hrule
    | randomUUID =>
        cases hstep
        exact .draw hrule
    | writeFile path png =>
        obtain ⟨-, hupserted, hpng, uuid, huuid, rfl⟩ := hrule
        cases hstep
        exact .write ⟨huuid, hupserted⟩ hpng
    | imageUpsert data =>
        obtain ⟨hwritten, hupserted, hticket, uuid, huuid, hpath⟩ := hrule
        obtain ⟨row, s₁, hupsert, hspec⟩ := s.exists_upsertImage data
        cases hupsert.symm.trans hstep
        exact .upsert hwritten ⟨huuid, hupserted⟩ hpath hticket hspec
    | unlink path =>
        obtain ⟨hupserted, old, hold, hpath⟩ := hrule
        have hs : s' = (s.unlink path).2 := (congrArg Prod.snd hstep).symm
        exact .unlink hupserted hold hpath (.inl hs)
    | stat path =>
        change ticketMachine rt ch (.stat path) s = _ at hstep
        simp only [ticketMachine] at hstep
        split at hstep
        · cases hstep
          exact .quiet rfl rfl rfl
        · cases hstep
          exact .quiet rfl rfl rfl
    | ticketJobAdd job =>
        cases hstep
        unfold TicketStore.addTicketJob
        split
        · exact .quiet rfl rfl rfl
        · exact .quiet rfl rfl rfl
    | templateUpdate eventId scopeKey f => exact hrule.elim
    | _ =>
        cases hstep
        exact .quiet rfl rfl rfl
  · cases c with
    | unlink path =>
        obtain ⟨hupserted, old, hold, hpath⟩ := hrule
        exact .unlink hupserted hold hpath (.inr ⟨hfaulty, rfl⟩)
    | _ => exact .quiet rfl rfl rfl

/-- What one call preserves of the names. -/
theorem Names.step {strict : Prop} {s s' : TicketStore} {T : Nat → Trail} {t : Nat} {tr : Trail}
    (h : Names s T) (hmove : Moves strict s (T t) s' tr) : Names s' (Function.update T t tr) := by
  cases hmove with
  | quiet himages huuids hfiles =>
      rw [Function.update_eq_self]
      exact h.congr himages huuids
  | find hidle => exact h.find hidle _ _ _
  | draw hidle => exact h.draw hidle rfl rfl
  | write hpending hpng => exact (h.note true (T t).unlinked).congr rfl rfl
  | upsert hwritten hpending hpath hticket hs => exact h.upsert hpending hpath hticket hs
  | @unlink old path s' hupserted hold hpath hs =>
      have hsame : s'.images = s.images ∧ s'.uuids = s.uuids := by
        rcases hs with rfl | ⟨-, rfl⟩
        · exact ⟨images_unlink, uuids_unlink⟩
        · exact ⟨rfl, rfl⟩
      exact (h.note (T t).written true).congr hsame.1 hsame.2

/-! ## Runs -/

/-- The trails of all calls. -/
def trails (w : TicketWorld) (t : Nat) : Trail := trail (w.own t)

theorem trails_log (w : TicketWorld) (t : Nat) (c : TicketCall) (x : Except Exn (TicketResp c))
    (s : TicketStore) :
    trails (w.log t c x s) = Function.update (trails w) t ((trails w t).after c x) := by
  funext u
  by_cases hu : u = t
  · subst hu
    rw [Function.update_self, trails, World.own_log, trail_cons, trails]
  · rw [Function.update_of_ne hu, trails, World.own_log_ne w hu, trails]

theorem names_init {s : TicketStore} (h : RowsNamed s) : Names s fun _ => {} where
  rows := h
  fits _ := by
    refine ⟨?_, ?_, ?_, ?_, ?_⟩
    · intro uuid hu
      cases hu
    · rintro uuid ⟨hu, -⟩
      cases hu
    · rintro i (hi | hi) <;> cases hi
    · intro i hi
      cases hi
    · intro i hi
      cases hi
  unknown _ _ uuid hp := by cases hp.1
  apart _ _ _ uuid hu := by cases hu

end CreativeBackend.Tickets
