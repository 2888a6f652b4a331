import CreativeBackend.Tickets.Names

/-!
# The files of the rows

Every row names a picture that is in place, in every run: a call deletes the file of the row that it
has read after it gave the row another one, and nobody uses a name twice. The other half, that every
generated file is named by a row, needs that each upsert replaces the row that its call had read.
-/

namespace CreativeBackend.Tickets

open Relational Interaction Path TicketStore DigitalTicketImageService

/-! ## Rows and their files -/

namespace TicketStore

/-- The picture with a name is in place, and it is not empty. -/
def InPlace (s : TicketStore) (uuid : String) : Prop :=
  ∃ f, s.fileAt (generatedFile uuid) = some f ∧ 0 < f.png.size

/-- A row names the file under a path. -/
def Referenced (s : TicketStore) (path : List String) : Prop :=
  ∃ i ∈ s.images.rows, resolveGeneratedRelativePath (some i.relativePath) = some path

/-- The path is one under the directory of generated tickets. -/
def Generated (path : List String) : Prop := splitSlashes GENERATED_TICKET_DIR <+: path

variable {s s' : TicketStore} {uuid : String}

theorem InPlace.writeFile (h : s.InPlace uuid) {path : List String} {png : Png}
    (hpng : 0 < png.size) : (s.writeFile path png).InPlace uuid := by
  by_cases hpath : generatedFile uuid = path
  · rw [InPlace, hpath, fileAt_writeFile]
    exact ⟨_, rfl, hpng⟩
  · rw [InPlace, fileAt_writeFile_of_ne hpath]
    exact h

theorem InPlace.unlink (h : s.InPlace uuid) {path : List String}
    (hpath : generatedFile uuid ≠ path) : (s.unlink path).2.InPlace uuid := by
  rw [InPlace, fileAt_unlink_of_ne hpath]
  exact h

theorem inPlace_congr (h : s'.files = s.files) : s'.InPlace uuid ↔ s.InPlace uuid := by
  unfold InPlace fileAt
  rw [h]

theorem mem_writeFile {path : List String} {png : Png} {f : TicketFile} :
    f ∈ (s.writeFile path png).files ↔ (f ∈ s.files ∧ f.path ≠ path) ∨ f = ⟨path, png⟩ := by
  simp [TicketStore.writeFile]

/-- After a deletion no file has the path. -/
theorem mem_unlink {path : List String} {f : TicketFile} (h : f ∈ (s.unlink path).2.files) :
    f ∈ s.files ∧ f.path ≠ path := by
  unfold TicketStore.unlink at h
  cases hat : s.fileAt path with
  | none =>
      rw [hat] at h
      refine ⟨h, fun heq => ?_⟩
      have hsome := fileAt_isSome.mpr ⟨f, h, heq⟩
      rw [hat] at hsome
      cases hsome
  | some g =>
      rw [hat] at h
      simpa using h

end TicketStore

/-- The deletion of a picture that a call knows removes the file of its name. -/
theorem Trail.Fits.deleted {s : TicketStore} {tr : Trail} (h : tr.Fits s) {i : DigitalTicketImage}
    (hi : tr.Knows i) {path : List String}
    (hpath : deletedPath (some i.relativePath) GENERATED_TICKET_DIR = .ok path) :
    ∃ uuid, i.relativePath = generatedPath uuid ∧ path = generatedFile uuid := by
  obtain ⟨uuid, hdrawn, hrelative⟩ := h.known i hi
  rw [hrelative, deletedPath_of_drawn hdrawn] at hpath
  exact ⟨uuid, hrelative, (Except.ok.inj hpath).symm⟩

/-! ## The files that are needed -/

/-- The picture that a call has written and not upserted is in place. -/
def Trail.Kept (s : TicketStore) (tr : Trail) : Prop :=
  ∀ uuid, tr.Pending uuid → tr.written = true → s.InPlace uuid

/-- The pictures of the rows are in place, and so are those that are written and not upserted. -/
structure Presence (s : TicketStore) (T : Nat → Trail) : Prop where
  rows : ∀ i ∈ s.images.rows, ∀ uuid, i.relativePath = generatedPath uuid → s.InPlace uuid
  pending : ∀ t, (T t).Kept s

/-- A call has moved on. -/
theorem forall_trail {P : Trail → Prop} {T : Nat → Trail} {t : Nat} {tr : Trail} (htr : P tr)
    (hother : ∀ u, u ≠ t → P (T u)) : ∀ u, P (Function.update T t tr u) :=
  (Function.forall_update_iff T fun _ tr => P tr).mpr ⟨htr, hother⟩

/-- What one call preserves of the files that are needed. -/
theorem Presence.step {s s' : TicketStore} {T : Nat → Trail} {t : Nat} {tr : Trail}
    (h : Presence s T) (hnames : Names s T) (hmove : Moves True s (T t) s' tr) :
    Presence s' (Function.update T t tr) := by
  cases hmove with
  | quiet himages huuids hfiles =>
      rw [Function.update_eq_self]
      constructor
      · intro i hi uuid hpath
        rw [himages] at hi
        exact (inPlace_congr hfiles).mpr (h.rows i hi uuid hpath)
      · exact fun u uuid hp hw => (inPlace_congr hfiles).mpr (h.pending u uuid hp hw)
  | find hidle => exact ⟨h.rows, forall_trail (h.pending t) fun u _ => h.pending u⟩
  | draw hidle =>
      refine ⟨h.rows, forall_trail ?_ fun u _ => h.pending u⟩
      intro uuid _ hw
      rw [hidle.written] at hw
      cases hw
  | @write uuid png hpending hpng =>
      refine ⟨fun i hi u hpath => (h.rows i hi u hpath).writeFile hpng, forall_trail ?_ ?_⟩
      · intro u hp _
        rw [Option.some.inj (hp.1.symm.trans hpending.1), InPlace, fileAt_writeFile]
        exact ⟨_, rfl, hpng⟩
      · exact fun v _ u hp hw => (h.pending v u hp hw).writeFile hpng
  | @upsert data row uuid s' hwritten hpending hpath hticket hs =>
      have hin := h.pending t uuid hpending hwritten
      obtain ⟨images, rfl⟩ := hs.frame
      constructor
      · intro i hi u hrelative
        rcases (hs.rows i).mp hi with ⟨hi, -⟩ | rfl
        · exact h.rows i hi u hrelative
        · rw [generatedPath_inj.mp (hrelative.symm.trans (hs.path.trans hpath))]
          exact hin
      · apply forall_trail
        · rintro u ⟨-, hnone⟩
          cases hnone
        · exact fun u _ => h.pending u
  | @unlink old path s' hupserted hold hpath hs =>
      -- No row and no other call has the name of the row that the call displaced.
      have hfits := hnames.fits t
      obtain ⟨m, hrelative, rfl⟩ := hfits.deleted (.inr hold) hpath
      have hs' : s' = (s.unlink (generatedFile m)).2 := hs.resolve_right fun hn => hn.1 trivial
      subst hs'
      constructor
      · intro i hi u hi'
        rw [images_unlink] at hi
        refine (h.rows i hi u hi').unlink fun heq => ?_
        apply (hfits.displaced old hold).1 i hi
        rw [hi', hrelative, generatedFile_inj.mp heq]
      · apply forall_trail
        · rintro u ⟨-, hnone⟩
          rw [show (T t).upserted = none from hnone] at hupserted
          cases hupserted
        · intro v _ u hp hw
          refine (h.pending v u hp hw).unlink fun heq => ?_
          apply hnames.unknown v t u hp old (.inr hold)
          rw [hrelative, generatedFile_inj.mp heq]

/-! ## The files that are left -/

/-- The call is to delete the file. -/
structure Trail.Owes (tr : Trail) (path : List String) : Prop where
  displaced : ∃ old, tr.displaced = some old ∧
    resolveGeneratedRelativePath (some old.relativePath) = some path
  unlinked : tr.unlinked = false

/-- The call has written the file, and its row does not name it yet. -/
def Trail.Writes (tr : Trail) (path : List String) : Prop :=
  ∃ uuid, tr.Pending uuid ∧ tr.written = true ∧ path = generatedFile uuid

/-- What a call does before and after its upsert. -/
structure Trail.Ordered (tr : Trail) : Prop where
  displaced : tr.upserted = none → tr.displaced = none
  unlinked : tr.upserted = none → tr.unlinked = false

/-- A generated file is named by a row, or a call still has to name it or to delete it. -/
structure Ownership (s : TicketStore) (T : Nat → Trail) : Prop where
  files : ∀ f ∈ s.files, Generated f.path →
    s.Referenced f.path ∨ ∃ t, (T t).Writes f.path ∨ (T t).Owes f.path
  ordered : ∀ t, (T t).Ordered

/-- A call has moved on and still owns what it has owned. -/
theorem Ownership.move {s s' : TicketStore} {T : Nat → Trail} {t : Nat} {tr : Trail}
    (h : Ownership s T) (himages : s'.images = s.images)
    (hfiles : ∀ f ∈ s'.files, f ∈ s.files ∨ tr.Writes f.path)
    (hwrites : ∀ path, (T t).Writes path → tr.Writes path)
    (howes : ∀ f ∈ s'.files, (T t).Owes f.path → tr.Owes f.path) (hordered : tr.Ordered) :
    Ownership s' (Function.update T t tr) := by
  refine ⟨fun f hf hgen => ?_, forall_trail hordered fun u _ => h.ordered u⟩
  have hself : tr.Writes f.path ∨ tr.Owes f.path →
      ∃ u, (Function.update T t tr u).Writes f.path ∨ (Function.update T t tr u).Owes f.path := by
    intro htr
    refine ⟨t, ?_⟩
    rwa [Function.update_self]
  rcases hfiles f hf with hf' | hnew
  · rcases h.files f hf' hgen with href | ⟨u, hu⟩
    · left
      rw [Referenced, himages]
      exact href
    · right
      by_cases ht : u = t
      · subst ht
        exact hself (hu.imp (hwrites _) (howes f hf))
      · refine ⟨u, ?_⟩
        rwa [Function.update_of_ne ht]
  · exact .inr (hself (.inl hnew))

/-- An upsert has given its row the new picture, and owes the old one. -/
theorem Ownership.upsert {s s' : TicketStore} {T : Nat → Trail} {t : Nat} (h : Ownership s T)
    (hnames : Names s T) {data row : DigitalTicketImage} {uuid : String}
    (hpending : (T t).Pending uuid) (hpath : data.relativePath = generatedPath uuid)
    (hfresh : (s.imageOf data.registrationId data.templateId data.templateVersion).map
      (·.relativePath) = (T t).read.map (·.relativePath))
    (hs : Upserted s data row s') :
    Ownership s' (Function.update T t { T t with
      upserted := some data
      displaced := (T t).read }) := by
  obtain ⟨images, rfl⟩ := hs.frame
  constructor
  · intro f hf hgen
    rcases h.files f hf hgen with ⟨i, hi, hi'⟩ | ⟨u, hu⟩
    · cases hsame : data.sameTicket i with
      | false => exact .inl ⟨i, (hs.rows i).mpr (.inl ⟨hi, hsame⟩), hi'⟩
      | true =>
          -- The row that is replaced is the one that the call has read.
          obtain ⟨hr, ht, hv⟩ := sameTicket_iff.mp hsame
          rw [hr, ht, hv, imageOf_of_mem hi, Option.map_some] at hfresh
          obtain ⟨old, hread, hold⟩ := Option.map_eq_some_iff.mp hfresh.symm
          refine .inr ⟨t, .inr ?_⟩
          rw [Function.update_self]
          exact ⟨⟨old, hread, hold ▸ hi'⟩, (h.ordered t).unlinked hpending.2⟩
    · by_cases ht : u = t
      · subst ht
        rcases hu with ⟨v, hv, -, hfile⟩ | ⟨⟨old, hold, -⟩, -⟩
        · refine .inl ⟨row, (hs.rows row).mpr (.inr rfl), ?_⟩
          have huv : v = uuid := Option.some.inj (hv.1.symm.trans hpending.1)
          rw [hs.path, hpath, resolve_of_drawn ((hnames.fits u).drawn uuid hpending.1), hfile, huv]
        · rw [(h.ordered u).displaced hpending.2] at hold
          cases hold
      · refine .inr ⟨u, ?_⟩
        rwa [Function.update_of_ne ht]
  · apply forall_trail
    · constructor <;> intro hnone <;> cases hnone
    · exact fun u _ => h.ordered u

/-- What one call preserves of the files that are left, if an upsert replaces the row that its call
has read. -/
theorem Ownership.step {s s' : TicketStore} {T : Nat → Trail} {t : Nat} {tr : Trail}
    (h : Ownership s T) (hnames : Names s T) (hmove : Moves True s (T t) s' tr)
    (hfresh : ∀ data, tr.upserted = some data → (T t).upserted = none →
      (s.imageOf data.registrationId data.templateId data.templateVersion).map
        (·.relativePath) = (T t).read.map (·.relativePath)) :
    Ownership s' (Function.update T t tr) := by
  have hordered := h.ordered t
  cases hmove with
  | quiet himages huuids hfiles =>
      apply h.move himages
      · exact fun f hf => .inl (hfiles ▸ hf)
      · exact fun path hw => hw
      · exact fun f _ ho => ho
      · exact hordered
  | find hidle =>
      apply h.move
      · rfl
      · exact fun f hf => .inl hf
      · exact fun path hw => hw
      · exact fun f _ ho => ⟨ho.displaced, ho.unlinked⟩
      · exact ⟨hordered.displaced, hordered.unlinked⟩
  | draw hidle =>
      apply h.move
      · rfl
      · exact fun f hf => .inl hf
      · rintro path ⟨uuid, -, hw, -⟩
        rw [hidle.written] at hw
        cases hw
      · exact fun f _ ho => ⟨ho.displaced, ho.unlinked⟩
      · exact ⟨hordered.displaced, hordered.unlinked⟩
  | @write uuid png hpending hpng =>
      apply h.move
      · rfl
      · intro f hf
        rcases mem_writeFile.mp hf with ⟨hf, -⟩ | rfl
        · exact .inl hf
        · exact .inr ⟨uuid, hpending, rfl, rfl⟩
      · rintro path ⟨u, hp, -, hfile⟩
        exact ⟨u, hp, rfl, hfile⟩
      · exact fun f _ ho => ⟨ho.displaced, ho.unlinked⟩
      · exact ⟨hordered.displaced, hordered.unlinked⟩
  | upsert hwritten hpending hpath hticket hs =>
      exact h.upsert hnames hpending hpath (hfresh _ rfl hpending.2) hs
  | @unlink old path s' hupserted hold hpath hs =>
      obtain ⟨m, hrelative, rfl⟩ := (hnames.fits t).deleted (.inr hold) hpath
      have hs' : s' = (s.unlink (generatedFile m)).2 := hs.resolve_right fun hn => hn.1 trivial
      subst hs'
      obtain ⟨v, hdrawn, hv⟩ := (hnames.fits t).known old (.inr hold)
      have hm : v = m := generatedPath_inj.mp (hv.symm.trans hrelative)
      subst hm
      apply h.move images_unlink
      · exact fun f hf => .inl (mem_unlink hf).1
      · exact fun path hw => hw
      · rintro f hf ⟨⟨old', hold', hfile⟩, -⟩
        -- What the call owed is gone.
        cases hold.symm.trans hold'
        rw [hv, resolve_of_drawn hdrawn] at hfile
        exact absurd (Option.some.inj hfile).symm (mem_unlink hf).2
      · constructor
        · exact hordered.displaced
        · intro hnone
          rw [show (T t).upserted = none from hnone] at hupserted
          cases hupserted

/-! ## Runs -/

/-- Every row names a file that is in place, and every generated file is named by a row. -/
structure FilesMatch (s : TicketStore) : Prop where
  shown : ∀ i ∈ s.images.rows, s.Shown i
  referenced : ∀ f ∈ s.files, Generated f.path → s.Referenced f.path

/-- The rows and the files match, and each row has a name of its own. -/
structure Settled (s : TicketStore) : Prop extends FilesMatch s, RowsNamed s

/-- An upsert finds the row that its call has read. -/
def FindsRead (t : Nat) (c : TicketCall) (w : TicketWorld) : Prop :=
  match c with
  | .imageUpsert data =>
      (w.store.imageOf data.registrationId data.templateId data.templateVersion).map
        (·.relativePath) = (trails w t).read.map (·.relativePath)
  | _ => True

/-- The names and the files that are needed, in a world. -/
structure Sound (w : TicketWorld) : Prop where
  names : Names w.store (trails w)
  presence : Presence w.store (trails w)

theorem Sound.init {s : TicketStore} (h : Settled s) : Sound ⟨s, []⟩ where
  names := names_init h.toRowsNamed
  presence := by
    constructor
    · intro i hi uuid hpath
      obtain ⟨path, f, hresolve, hat, hsize⟩ := h.shown i hi
      obtain ⟨v, hdrawn, hv⟩ := h.drawn i hi
      rw [hv, resolve_of_drawn hdrawn] at hresolve
      rw [generatedPath_inj.mp (hpath.symm.trans hv)]
      exact ⟨f, (Option.some.inj hresolve) ▸ hat, hsize⟩
    · rintro t uuid ⟨hu, -⟩
      cases hu

theorem Sound.shown {w : TicketWorld} (h : Sound w) : ∀ i ∈ w.store.images.rows, w.store.Shown i := by
  intro i hi
  obtain ⟨uuid, hdrawn, hpath⟩ := h.names.rows.drawn i hi
  obtain ⟨f, hat, hsize⟩ := h.presence.rows i hi uuid hpath
  rw [Shown, hpath]
  exact ⟨generatedFile uuid, f, resolve_of_drawn hdrawn, hat, hsize⟩

theorem Ownership.init {s : TicketStore} (h : FilesMatch s) : Ownership s fun _ => {} where
  files f hf hgen := .inl (h.referenced f hf hgen)
  ordered _ := ⟨fun _ => rfl, fun _ => rfl⟩

variable {rt : Runtime}

theorem Sound.outcome {w : TicketWorld} (h : Sound w) {t : Nat} {c : TicketCall}
    {x : Except Exn (TicketResp c)} {s' : TicketStore} (hrule : ticketRule (w.own t) c)
    (ho : (ticketService rt True).Outcome c w.store x s') : Sound (w.log t c x s') := by
  have hmove := moves_of_outcome hrule ho
  constructor
  · rw [trails_log]
    exact h.names.step hmove
  · rw [trails_log]
    exact h.presence.step h.names hmove

theorem Sound.env {w : TicketWorld} (h : Sound w) {s' : TicketStore}
    (henv : (ticketService rt True).env w.store s') : Sound { w with store := s' } := by
  obtain ⟨himages, huuids, hfiles⟩ := henv
  have hmove : Moves True w.store (trails w 0) s' (trails w 0) :=
    .quiet himages huuids (hfiles trivial)
  have hpresence := h.presence.step h.names hmove
  rw [Function.update_eq_self] at hpresence
  exact ⟨h.names.congr himages huuids, hpresence⟩

/-- In every run the names are kept and the files that are needed are there. -/
def soundGuard (rt : Runtime) : Guard (ticketService rt True) fun _ _ _ => True where
  inv := Sound
  rule := ticketRule
  answers := ticketAnswers True
  answered _ _ _ ho := answers_of_outcome ho _
  call_inv hi _ hrule ho := hi.outcome hrule ho
  env_inv hi henv := hi.env henv
  start_inv hi hstart := by
    rw [hstart.1]
    exact hi

/-- In a run in which every upsert finds the row that was read, every generated file is owned. -/
def ownershipGuard (rt : Runtime) : Guard (ticketService rt True) FindsRead where
  inv w := Sound w ∧ Ownership w.store (trails w)
  rule := ticketRule
  answers := ticketAnswers True
  answered _ _ _ ho := answers_of_outcome ho _
  call_inv := by
    rintro t c w x s' ⟨hsound, howner⟩ hfinds hrule ho
    refine ⟨hsound.outcome hrule ho, ?_⟩
    rw [trails_log]
    refine howner.step hsound.names (moves_of_outcome hrule ho) fun data hdata hnone => ?_
    cases c with
    | imageUpsert data' =>
        cases x with
        | ok row =>
            cases hdata
            exact hfinds
        | error e =>
            rw [show (trails w t).upserted = some data from hdata] at hnone
            cases hnone
    | _ =>
        have hsame : (trails w t).upserted = some data := by
          rw [← hdata]
          cases x <;> rfl
        rw [hsame] at hnone
        cases hnone
  env_inv := by
    rintro w s' ⟨hsound, howner⟩ henv
    have hmove : Moves True w.store (trails w 0) s' (trails w 0) :=
      .quiet henv.1 henv.2.1 (henv.2.2 trivial)
    have howner' := howner.step hsound.names hmove fun data hdata hnone => by
      rw [hdata] at hnone
      cases hnone
    rw [Function.update_eq_self] at howner'
    exact ⟨hsound.env henv, howner'⟩
  start_inv hi hstart := by
    rw [hstart.1]
    exact hi

theorem along_of_start {strict : Prop} {t : Nat} {s s' : TicketStore} {p : TicketSvc Unit}
    (h : (ticketService rt strict).starts s p s') :
    p.Along ticketRule (ticketAnswers strict) t (fun log _ => Ends strict (trail log)) [] := by
  obtain ⟨-, op, rfl⟩ := h
  exact follows_program op t

/-- A call that is done has neither a file without a row nor one to delete. -/
theorem Trail.Done.not_owner {s : TicketStore} {tr : Trail} (h : tr.Done) (hfits : tr.Fits s)
    (path : List String) : ¬ (tr.Writes path ∨ tr.Owes path) := by
  rintro (⟨uuid, hpending, hwritten, -⟩ | ⟨⟨old, hold, -⟩, hunlinked⟩)
  · have hsome := h.upserted hwritten
    rw [hpending.2] at hsome
    cases hsome
  · obtain ⟨uuid, hdrawn, hpath⟩ := hfits.known old (.inr hold)
    rcases h.unlinked old hold with hdone | hempty | ⟨data, hdata, hsame⟩ | ⟨reason, hreason⟩
    · rw [hdone] at hunlinked
      cases hunlinked
    · exact generatedPath_ne_empty uuid (hpath.symm.trans hempty)
    · exact (hfits.displaced old hold).2 data hdata hsame
    · rw [hpath, deletedPath_of_drawn hdrawn] at hreason
      cases hreason

/-! ## Two calls for one ticket -/

instance (t : Nat) (c : TicketCall) (w : TicketWorld) : Decidable (FindsRead t c w) := by
  cases c with
  | imageUpsert data => exact inferInstanceAs (Decidable (_ = _))
  | _ => exact inferInstanceAs (Decidable True)

instance (path : List String) : Decidable (Generated path) :=
  inferInstanceAs (Decidable (_ <+: _))

instance (s : TicketStore) (path : List String) : Decidable (s.Referenced path) :=
  inferInstanceAs (Decidable (∃ i ∈ s.images.rows, _))

theorem ticketStore_settled : Settled ticketStore where
  shown i hi := by cases hi
  referenced f hf := by cases hf
  drawn i hi := by cases hi
  unique i hi := by cases hi

/-- A request for the ticket of the registration. -/
def startGenerate (forceRegenerate : Bool) : (ticketService sampleRuntime True).Action :=
  .start (TicketOp.program sampleRuntime (.generateForRegistration "c0" { forceRegenerate }))
    (fun _ => true) fun s => s

/-- Two requests, stepped in the order of the threads. -/
def generateScript (first second : Bool) (threads : List Nat) :
    List (ticketService sampleRuntime True).Action :=
  [startGenerate first, startGenerate second] ++ threads.map (.step · {})

theorem legal_generateScript (first second : Bool) (threads : List Nat) :
    Service.Legal (generateScript first second threads) := by
  have hstart : ∀ forceRegenerate, (startGenerate forceRegenerate).Legal :=
    fun forceRegenerate s _ => ⟨rfl, _, rfl⟩
  simp only [generateScript, Service.legal_append, Service.legal_cons, Service.legal_nil, and_true]
  refine ⟨⟨hstart first, hstart second⟩, ?_⟩
  intro a ha
  obtain ⟨t, -, rfl⟩ := List.mem_map.mp ha
  trivial

/-- Both requests have ended, and there is one row and so many files. -/
def endsWithFiles (n : Nat) (cfg : TicketPool) : Bool :=
  cfg.pool.all System.finished && cfg.pool.length == 2 &&
    cfg.world.store.images.rows.length == 1 && cfg.world.store.files.length == n

end Tickets

open Interaction Tickets TicketStore DigitalTicketImageService

/-- A row names a file that is in place, in every run and at any time. If every upsert finds the row
that its call has read, then every generated file is named by a row when no call is in progress. -/
theorem files_match_of_upserts_find_read {rt : Runtime} {s₀ : TicketStore} (h₀ : Settled s₀) :
    (∀ cfg, (ticketService rt True).system.Reach (Service.init s₀) cfg →
      ∀ i ∈ cfg.world.store.images.rows, cfg.world.store.Shown i) ∧
    ∀ cfg, ((ticketService rt True).system.restrict FindsRead).Reach (Service.init s₀) cfg →
      System.Quiescent cfg → FilesMatch cfg.world.store := by
  constructor
  · intro cfg hr
    rw [← System.restrict_true (σ := (ticketService rt True).system)] at hr
    have hgood := Guard.good_of_reach (G := soundGuard rt)
      (Q := fun _ log => Ends True (trail log)) along_of_start (Sound.init h₀) hr
    exact hgood.1.shown
  · intro cfg hr hq
    have hgood := Guard.good_of_reach (G := ownershipGuard rt)
      (Q := fun _ log => Ends True (trail log)) along_of_start
      ⟨Sound.init h₀, Ownership.init h₀.toFilesMatch⟩ hr
    obtain ⟨hsound, howner⟩ := hgood.1
    refine ⟨hsound.shown, fun f hf hgen => ?_⟩
    rcases howner.files f hf hgen with href | ⟨t, ht⟩
    · exact href
    · refine absurd ht (Trail.Done.not_owner ?_ (hsound.names.fits t) f.path)
      cases hp : cfg.pool[t]? with
      | some p =>
          obtain ⟨x, rfl⟩ := hq p (List.mem_of_getElem? hp)
          exact Guard.Ending.ended hgood hp trivial
      | none =>
          -- No call has this number, so it has done nothing.
          have hfresh : cfg.world.own t = [] := by
            apply List.filter_eq_nil_iff.mpr
            intro e he heq
            have hlt : e.thread < cfg.pool.length := hgood.2.1 e he
            rw [List.getElem?_eq_none_iff] at hp
            have hthread : e.thread = t := by simpa using heq
            exact absurd (hthread ▸ hlt) (Nat.not_lt.mpr hp)
          rw [trails, hfresh]
          exact Trail.Idle.done ⟨rfl, rfl, rfl, rfl, rfl⟩

/-- Two requests in turn: the second deletes the picture of the first. -/
theorem files_match_after_regeneration :
    ∃ cfg : TicketPool, endsWithFiles 1 cfg = true ∧ FilesMatch cfg.world.store := by
  obtain ⟨cfg, hr, hend⟩ := Service.exists_config_of_perform FindsRead
    (generateScript true true (List.replicate 13 0 ++ List.replicate 14 1))
    (Service.init ticketStore) (endsWithFiles 1) (legal_generateScript _ _ _) (by decide +kernel)
  refine ⟨cfg, hend, ?_⟩
  apply (files_match_of_upserts_find_read ticketStore_settled).2 cfg hr
  unfold endsWithFiles at hend
  simp only [Bool.and_eq_true] at hend
  exact System.quiescent_of_finished hend.1.1.1

/-- Two requests that both find no row leave two files, and the row names one of them. -/
theorem racing_requests_leave_a_file :
    ¬ ∀ (rt : Runtime) (s₀ : TicketStore), Settled s₀ →
      ∀ cfg, (ticketService rt True).system.Reach (Service.init s₀) cfg →
        System.Quiescent cfg → FilesMatch cfg.world.store := by
  intro hclaim
  obtain ⟨cfg, hr, hend⟩ := Service.exists_config_of_perform (fun _ _ _ => True)
    (generateScript false false ([0, 0, 0, 1, 1, 1] ++ List.replicate 10 0 ++ List.replicate 10 1))
    (Service.init ticketStore) (fun cfg => endsWithFiles 2 cfg && decide
      (∃ f ∈ cfg.world.store.files, Generated f.path ∧ ¬ cfg.world.store.Referenced f.path))
    (legal_generateScript _ _ _) (by decide +kernel)
  rw [System.restrict_true] at hr
  rw [Bool.and_eq_true] at hend
  have hq : System.Quiescent cfg := by
    have hdone := hend.1
    unfold endsWithFiles at hdone
    simp only [Bool.and_eq_true] at hdone
    exact System.quiescent_of_finished hdone.1.1.1
  obtain ⟨f, hf, hgen, hlost⟩ := of_decide_eq_true hend.2
  exact hlost ((hclaim _ _ ticketStore_settled cfg hr hq).referenced f hf hgen)

end CreativeBackend
