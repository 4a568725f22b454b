import UpfEdge.Journal

/-!
# The sequence of the reports

As long as SEIDs and URR ids fit their key, the reporter takes the row of a URR for that URR.  So a
tick reaches every URR of a live session (`tick_urr`), and what it sends follows the log
(`Recorded.tick`).

A SEID that does not fit is lost in the key, and its URRs are never reported
(`not_sequenced_seid_2_48`).
-/

namespace UpfEdge

open Lib Pfcp Server Xdp

namespace Journal

/-! ### The tick -/

section Tick

variable {host : Host} {s : Journal}
  {order : IterOrder (Sigma fun _ : UrrKey => PerCpu UrrStats)} {clock : ℕ → Instant}

theorem queued_tick (h : s.audit.sys.totals = none) : s.queued host (.tick order clock) =
    (report clock (s.totals host order) s.audit.srv).2 := by
  simp only [queued, Audit.reports, Audit.step, System.step, System.handle, h]
  rfl

/-- Both sections of the tick: the configurations are all that changes. -/
theorem step_tick (order : IterOrder (Sigma fun _ : UrrKey => PerCpu UrrStats))
    (clock : ℕ → Instant) (h : s.audit.sys.totals = none) :
    (s.step host (.tick order clock)).audit.srv =
        (report clock (s.totals host order) s.audit.srv).1 ∧
      (s.step host (.tick order clock)).audit.maps = s.audit.maps ∧
      (s.step host (.tick order clock)).audit.sys.totals = none := by
  have hsnap : s.audit.sys.step host (.snapshot order) =
      { s.audit.sys with totals := some (s.totals host order) } := by
    simp only [System.step, System.handle, h]
    rfl
  have hsys : (s.step host (.tick order clock)).audit.sys =
      { world := { s.audit.world with srv := (report clock (s.totals host order) s.audit.srv).1 }
        totals := none } := by
    change (s.audit.sys.step host (.snapshot order)).step host (.report clock) = _
    rw [hsnap]
    rfl
  refine ⟨?_, ?_, ?_⟩
  · rw [Audit.srv, Audit.world, hsys]
  · rw [Audit.maps, Audit.world, hsys]
  · rw [hsys]

theorem nodup_totals : ((s.totals host order).map Prod.fst).Nodup :=
  snapshot_nodup host.ncpus order s.audit.maps

/-- The row that the tick has for a URR of a live session. -/
theorem exists_row_of_tracked {k : UInt64 × UInt32} {cfg : UrrConfig} (h : s.Tracked host k cfg)
    (hlt : k.1.toNat < 2 ^ 48) : ∃ (row : Row) (perCpu : PerCpu UrrStats),
      row ∈ (s.totals host order).zipIdx ∧ row.urr = k ∧
      s.audit.maps.urrMap.lookup (.new k.1 k.2) = some perCpu ∧
      row.1.2 = sumPerCpu host.ncpus perCpu := by
  obtain ⟨perCpu, hrow, -⟩ := h.row
  have hmem : ((UrrKey.new k.1 k.2).key, sumPerCpu host.ncpus perCpu) ∈ s.totals host order :=
    List.mem_map.mpr ⟨⟨_, perCpu⟩, order.mem_perm.mpr (Table.lookup_eq_some.mp hrow), rfl⟩
  obtain ⟨i, hi⟩ := exists_row hmem
  refine ⟨_, perCpu, hi, ?_, hrow, rfl⟩
  exact Prod.ext (seidPart_composeKey_of_lt hlt _) (idPart_composeKey_of_lt _ h.small)

/-- **What the tick does to a URR of a live session.** -/
theorem tick_urr (order : IterOrder (Sigma fun _ : UrrKey => PerCpu UrrStats))
    (clock : ℕ → Instant) (h : s.Recorded host) {seid : UInt64} {session : SessionData} {u : UInt32}
    {cfg : UrrConfig} (hlive : s.audit.Live seid session)
    (hcfg : s.audit.srv.urrConfigs.lookup (seid, u) = some cfg) :
    ∃ (row : Row) (perCpu : PerCpu UrrStats) (peer : SocketAddr) (seq : UInt32),
      row ∈ (s.totals host order).zipIdx ∧
      s.audit.maps.urrMap.lookup (.new seid u) = some perCpu ∧
      row.1.2 = sumPerCpu host.ncpus perCpu ∧
      (s.step host (.tick order clock)).audit.srv.urrConfigs.lookup (seid, u) =
        some (row.config clock cfg) ∧
      (s.step host (.tick order clock)).log (seid, u) =
        if row.Fires clock cfg then
          .reported (row.request clock cfg peer seq) (clock (2 * row.2)) (clock (2 * row.2 + 1)) ::
            s.log (seid, u)
        else s.log (seid, u) := by
  have hlt : seid.toNat < 2 ^ 48 := lt_of_lt_of_le (h.issued.live hlive) h.issued.next_le
  obtain ⟨peer, hpeer⟩ := Option.isSome_iff_exists.mp (h.peered.session seid session hlive)
  obtain ⟨row, perCpu, hrow, hurr, hperCpu, hsum⟩ : ∃ (row : Row) (perCpu : PerCpu UrrStats),
      row ∈ (s.totals host order).zipIdx ∧ row.urr = (seid, u) ∧
      s.audit.maps.urrMap.lookup (.new seid u) = some perCpu ∧
      row.1.2 = sumPerCpu host.ncpus perCpu :=
    exists_row_of_tracked ((h.covers seid session hlive).tracked u cfg hcfg) hlt
  rw [← hurr] at hcfg
  obtain ⟨seq, hreq⟩ : ∃ seq, (report clock (s.totals host order) s.audit.srv).2.filter
      (fun r => (r.seid, r.urrId) = row.urr) =
        if row.Fires clock cfg then [row.request clock cfg peer seq] else [] :=
    report_requests_urr nodup_totals hpeer hrow hcfg
  refine ⟨row, perCpu, peer, seq, hrow, hperCpu, hsum, ?_, ?_⟩
  · rw [(step_tick order clock h.idle).1, ← hurr,
      report_config_of_mem nodup_totals hpeer hrow, hcfg]
    rfl
  · change s.entries host (.tick order clock) (seid, u) ++ s.log (seid, u) = _
    simp only [entries, queued_tick h.idle]
    rw [← hurr, hreq, findIdx_urr nodup_totals hrow]
    split_ifs <;> rfl

/-- A URR without a configuration is not reported. -/
theorem tick_absent (h : s.Recorded host) {k : UInt64 × UInt32}
    (hnone : s.audit.srv.urrConfigs.lookup k = none) :
    (s.step host (.tick order clock)).log k = s.log k := by
  change s.entries host (.tick order clock) k ++ s.log k = _
  simp only [entries, queued_tick h.idle]
  rw [report_requests_of_none nodup_totals hnone]
  rfl

theorem short_tick (h : s.Recorded host) (k : UInt64 × UInt32) :
    ((s.step host (.tick order clock)).log k).requests.length ≤
      (s.step host (.tick order clock)).sent := by
  have hnew : (s.entries host (.tick order clock) k).requests.length ≤
      (s.queued host (.tick order clock)).length := by
    refine (List.length_filterMap_le ..).trans ?_
    simp only [entries, List.length_map, List.length_reverse]
    exact List.length_filter_le ..
  have hold := h.short k
  change (s.entries host (.tick order clock) k ++ s.log k).requests.length ≤ s.sent + _
  rw [Log.requests_append, List.length_append]
  omega

theorem past_tick (h : s.Recorded host) (k : UInt64 × UInt32)
    (hk : (s.step host (.tick order clock)).log k ≠ []) :
    k.1.toNat < (s.step host (.tick order clock)).audit.srv.nextSeid.toNat := by
  have hnext : (s.step host (.tick order clock)).audit.srv.nextSeid = s.audit.srv.nextSeid := by
    rw [(step_tick order clock h.idle).1, (report_spec ..).1.nextSeid]
  rw [hnext]
  cases hcfg : s.audit.srv.urrConfigs.lookup k with
  | none =>
    rw [tick_absent h hcfg] at hk
    exact h.past k hk
  | some cfg => exact h.issued.config hcfg

/-- The instants of a row are between the last one before the tick and the last one after it. -/
theorem time_of_row (hp : s.Premise host (.tick order clock)) {row : Row}
    (hrow : row ∈ (s.totals host order).zipIdx) :
    s.time ≤ clock (2 * row.2) ∧
      clock (2 * row.2 + 1) ≤ (s.step host (.tick order clock)).time := by
  have hlt := List.snd_lt_of_mem_zipIdx hrow
  have hmem : ∀ j < 2 * (s.totals host order).length,
      clock j ∈ s.readings host (.tick order clock) :=
    fun j hj => List.mem_map_of_mem (List.mem_range.mpr hj)
  have hbounds := (time_bounds hp.1).2
  exact ⟨(hbounds _ (hmem _ (by omega))).1, (hbounds _ (hmem _ (by omega))).2⟩

/-- A session after the tick. -/
theorem Recorded.covers_tick (h : s.Recorded host) (hp : s.Premise host (.tick order clock))
    {seid : UInt64} {session : SessionData} (hlive : s.audit.Live seid session) :
    (s.step host (.tick order clock)).Covers host seid := by
  have hsame := (report_spec clock (s.totals host order) s.audit.srv).1.config
  rw [← (step_tick order clock h.idle).1] at hsame
  refine ⟨fun u hnone => ?_, fun u cfg' hsome => ?_⟩
  · have hcfg : s.audit.srv.urrConfigs.lookup (seid, u) = none := by
      have hmap := hsame (seid, u)
      rw [hnone] at hmap
      exact Option.map_eq_none_iff.mp hmap.symm
    rw [tick_absent h hcfg]
    exact (h.covers seid session hlive).absent u hcfg
  · obtain ⟨cfg, hcfg, -⟩ : ∃ cfg, s.audit.srv.urrConfigs.lookup (seid, u) = some cfg ∧
        cfg.cpSeid = cfg'.cpSeid := by
      have hmap := hsame (seid, u)
      rw [hsome] at hmap
      exact Option.map_eq_some_iff.mp hmap.symm
    have ht := (h.covers seid session hlive).tracked u cfg hcfg
    obtain ⟨row, perCpu, peer, seq, hrow, hperCpu, hsum, hcfg', hlog⟩ :=
      tick_urr order clock h hlive hcfg
    obtain rfl := Option.some.inj (hsome.symm.trans hcfg')
    obtain ⟨hread, hset⟩ := time_of_row hp hrow
    have hbelow : (s.log (seid, u)).Below row.1.2 := by
      obtain ⟨perCpu', hperCpu', hbelow⟩ := ht.row
      obtain rfl := Option.some.inj (hperCpu.symm.trans hperCpu')
      rw [hsum]
      exact hbelow
    have hmaps : (s.step host (.tick order clock)).audit.maps = s.audit.maps :=
      (step_tick order clock h.idle).2.1
    by_cases hfires : row.Fires clock cfg
    · rw [if_pos hfires] at hlog
      have hshort : (s.log (seid, u)).requests.length + 1 < 2 ^ 32 := by
        have hle : ((s.step host (.tick order clock)).log (seid, u)).requests.length ≤
          (s.step host (.tick order clock)).sent := short_tick h (seid, u)
        rw [hlog] at hle
        exact lt_of_le_of_lt hle hp.2.2.2.2
      obtain ⟨hul, hdl, hul', hdl'⟩ := h.bounded.sums hperCpu
      refine ⟨?_, ?_, ?_, ht.small, perCpu, ?_, ?_⟩
      · rw [hlog]
        exact ht.accords.report hfires hshort
      · rw [hlog]
        refine ht.lawful.report ht.accords hbelow ?_ (ht.last.trans hread)
        rw [hsum, hul, hdl]
        omega
      · change (if cfg.PeriodFires _ then clock (2 * row.2 + 1) else cfg.lastReport) ≤ _
        split_ifs
        · exact hset
        · exact ht.last.trans (time_bounds hp.1).1
      · rw [hmaps]
        exact hperCpu
      · rw [hlog, ← hsum]
        intro r hr
        rcases List.mem_cons.mp hr with rfl | hr
        · exact ⟨UInt64.le_refl _, UInt64.le_refl _⟩
        · exact hbelow r hr
    · rw [if_neg hfires] at hlog
      rw [Row.config_of_not_fires hfires]
      refine ht.of_same hlog (time_bounds hp.1).1 fun perCpu' hperCpu' => ?_
      rw [hmaps]
      exact ⟨perCpu', hperCpu', UInt64.le_refl _, UInt64.le_refl _⟩

/-- **The tick.** -/
theorem Recorded.tick (h : s.Recorded host)
    (hissued : Audit.Issued (2 ^ 48) (s.step host (.tick order clock)).audit)
    (hpeered : (s.step host (.tick order clock)).audit.Peered)
    (hp : s.Premise host (.tick order clock)) :
    (s.step host (.tick order clock)).Recorded host where
  issued := hissued
  idle := (step_tick order clock h.idle).2.2
  peered := hpeered
  bounded := hp.2.1
  past := past_tick h
  short := short_tick h
  covers seid session hlive := by
    rw [Audit.Live, (step_tick order clock h.idle).1, (report_spec ..).1.sessions] at hlive
    exact h.covers_tick hp hlive

/-- A threshold that is reached is reported by the tick, or was before. -/
theorem Recorded.prompt (h : s.Recorded host) {seid : UInt64} {session : SessionData} {u : UInt32}
    {urr : ParsedURR} {th : UInt64} (hlive : s.audit.Live seid session)
    (hurr : (s.log (seid, u)).settings = some urr)
    (henabled : urr.reportingTriggers &&& reportingTriggerVolth ≠ 0)
    (hth : urr.volumeThresholdTotal = some th) (hreached : th.toNat ≤ s.volume host (seid, u)) :
    ((s.step host (.tick order clock)).log (seid, u)).volthSince = true := by
  cases hcfg : s.audit.srv.urrConfigs.lookup (seid, u) with
  | none =>
    rw [(h.covers seid session hlive).absent u hcfg] at hurr
    cases hurr
  | some cfg =>
    have ht := (h.covers seid session hlive).tracked u cfg hcfg
    obtain ⟨row, perCpu, peer, seq, hrow, hperCpu, hsum, -, hlog⟩ :=
      tick_urr order clock h hlive hcfg
    obtain ⟨hul, hdl, hul', hdl'⟩ := h.bounded.sums hperCpu
    have htotal : th ≤ row.totalVol := by
      rw [UInt64.le_iff_toNat_le, Row.totalVol, hsum, UInt64.toNat_add, hul, hdl,
        Nat.mod_eq_of_lt (by omega)]
      rw [volume, hperCpu] at hreached
      exact hreached
    rw [hlog]
    rcases ht.accords.volthSince_of_reached hurr henabled hth htotal with hfires | hsince
    · rw [if_pos (.inl hfires)]
      change (Report.isVolth _ || _) = true
      rw [Log.isVolth_request.mpr hfires, Bool.true_or]
    · split_ifs
      · change (_ || (s.log (seid, u)).volthSince) = true
        rw [hsince, Bool.or_true]
      · exact hsince

end Tick

/-! ### Runs -/

section Run

variable {host : Host} {s : Journal} {act : Act}

theorem Recorded.step (h : s.Recorded host) (hp : s.Premise host act)
    (hb : s.IssuesBelow (2 ^ 48) act) : (s.step host act).Recorded host := by
  cases act with
  | datagram env now data src =>
    have hbelow : s.audit.IssuesBelow (2 ^ 48) (.datagram env now data src) :=
      hb _ (List.mem_singleton_self _)
    exact h.datagram (h.issued.step (by decide) hbelow) h.peered.step hp hbelow
  | tick order clock =>
    refine h.tick ?_ h.peered.step.step hp
    exact (h.issued.step (by decide) (hb (.snapshot order) List.mem_cons_self)).step (by decide)
      fun hiss => hiss.elim
  | uplink x f =>
    exact h.uplink (h.issued.step (by decide) (hb _ (List.mem_singleton_self _))) h.peered.step hp
  | downlink x f =>
    exact h.downlink (h.issued.step (by decide) (hb _ (List.mem_singleton_self _))) h.peered.step hp

theorem Recorded.lawful (h : s.Recorded host) {seid : UInt64} {data : SessionData}
    (hlive : s.audit.Live seid data) (u : UInt32) : (s.log (seid, u)).Lawful := by
  cases hcfg : s.audit.srv.urrConfigs.lookup (seid, u) with
  | none =>
    rw [(h.covers seid data hlive).absent u hcfg]
    exact Log.lawful_nil
  | some cfg => exact ((h.covers seid data hlive).tracked u cfg hcfg).lawful

end Run

/-- **The sequence of the reports.**  In every run that meets the premise and issues fewer than
`2 ^ 48` SEIDs, the requests of every URR of a live session are numbered without a gap, their
volumes add up and do not fall, there is at most one for the volume threshold between two
configurations and it is there at the end of the tick that finds the threshold reached, and those
for the period are a period apart. -/
theorem sequenced_of_premise (host : Host) (b : Boot) (acts : List Act)
    (h : Meets (step host) (fun s act => s.Premise host act ∧ s.IssuesBelow (2 ^ 48) act) (init b)
      acts) :
    Meets (step host) (Sequenced host) (init b) acts := by
  refine h.of_inv (I := Recorded host) (fun s act hi hg => hi.step hg.1 hg.2)
    (fun s act hi hg => ?_) (init_recorded host b)
  refine ⟨fun seid data u hlive => (hi.step hg.1 hg.2).lawful hlive u, ?_⟩
  rintro order clock rfl seid data u urr th hlive hurr henabled hth hreached
  exact hi.prompt hlive hurr henabled hth hreached

/-! ### Runs of the simulator -/

section Sim

open SmfSim

/-- The clock stands while a datagram is handled. -/
def envAt (now : Instant) : Env where
  assocOrder := .asStored
  idOrder := .asStored
  now _ := now

/-- Simulator `smf` sends a message at an instant. -/
def sendsAt (now : Instant) (smf : Ipv4Addr) (msg : Bytes) : Act :=
  .datagram (envAt now) now msg (peer smf)

/-- The simulator's session: a frame is counted, the period ends, the threshold is lowered to what
was counted, and the next tick reports it. -/
theorem sequenced_of_premise_sim :
    Meets (step host) (Sequenced host) (init boot)
      [sendsAt 0 smfA (associationSetup smfA 1),
        sendsAt 0 smfA (sessionEstablishment 1 smfA ue1 gnb 0x80000001),
        .uplink machine (uplinkFrame ue1), .tick .asStored fun _ => 30000000000,
        sendsAt 30500000000 smfA (sessionModification 1 (some 50) (some 30)),
        .tick .asStored fun _ => 31000000000] :=
  sequenced_of_premise host boot _ (by decide +kernel)

/-- A request without a PDR: it gets a SEID and is then refused. -/
def noPdr : Act := sendsAt 0 smfA (establishmentWith 1 smfA [] [] [])

/-- A session with a URR whose threshold is reached from the start. -/
def zeroThreshold : Act :=
  sendsAt 0 smfA (establishmentWith 1 smfA [anyPacket 1 100 interfaceAccess ue1 1]
    [{ farId := 1, applyAction := actionForw, destInterface := interfaceCore
       outerHeaderCreation := none }, toGnb 2 0x80000001]
    [{ urrId := 1, measurementMethod := measurementMethodVolum
       reportingTriggers := reportingTriggerVolth
       volumeThresholdTotal := some 0, measurementPeriod := none }])

/-- The journal without the records of who established what, which no act looks at. -/
def bare (s : Journal) : Journal :=
  { s with audit := { s.audit with origin := ∅, lastSetup := none } }

theorem step_bare (s : Journal) (act : Act) :
    (s.bare.step host act).bare = (s.step host act).bare := by
  cases act <;> rfl

theorem premise_bare (s : Journal) (act : Act) : s.bare.Premise host act ↔ s.Premise host act := by
  cases act <;> exact Iff.rfl

theorem sequenced_bare (s : Journal) (act : Act) :
    s.bare.Sequenced host act ↔ s.Sequenced host act := by
  cases act <;> exact ⟨fun h => ⟨h.lawful, h.prompt⟩, fun h => ⟨h.lawful, h.prompt⟩⟩

theorem meets_bare {P : Journal → Act → Prop} (hP : ∀ s act, P s.bare act ↔ P s act) :
    ∀ (acts : List Act) (s : Journal), Meets (step host) P s.bare acts ↔ Meets (step host) P s acts
  | [], _ => Iff.rfl
  | act :: acts, s => by
    refine and_congr (hP s act) ?_
    rw [← meets_bare hP acts (s.bare.step host act), step_bare, meets_bare hP acts]

/-- A request without a PDR is refused whenever it gets a SEID. -/
def Refuses (s : Journal) : Prop :=
  ∃ p, establishes (envAt 0) (received (establishmentWith 1 smfA [] [] [])) (peer smfA)
    s.audit.world = some p ∧ p.1.createPdrs.findSome? (·.ueIp) = none ∧
      p.1.createUrrs = []

/-- The journal when nothing has happened but that SEIDs and TEIDs were used up, to these. -/
def usedUp (seid : UInt64) (teid : UInt32) (s : Journal) : Journal where
  audit :=
    { sys :=
        { world := { s.audit.world with
            srv := { s.audit.srv with nextSeid := seid, nextTeid := teid, lastActivity := 0 } }
          totals := s.audit.sys.totals }
      origin := ∅
      lastSetup := none }
  log := s.log
  time := 0
  sent := s.sent

/-- The journal after `n` more refusals. -/
def refused (n : ℕ) (s : Journal) : Journal :=
  s.usedUp (s.audit.srv.nextSeid + UInt64.ofNat n) (s.audit.srv.nextTeid + UInt32.ofNat n)

theorem step_noPdr {s : Journal} (h : s.Refuses) :
    (s.step host noPdr).bare = s.refused 1 := by
  obtain ⟨p, hest, hue, hurrs⟩ := h
  obtain ⟨err, hrec⟩ := receive_of_refused host 0 hest hue
  have hsys : (s.step host noPdr).audit.sys =
      ⟨allocated (touched 0 s.audit.world), s.audit.sys.totals⟩ := by
    change (⟨(receive host _ 0 _ (peer smfA) s.audit.world).2, s.audit.sys.totals⟩ : System) = _
    rw [hrec]
  have hlog : (s.step host noPdr).log = s.log := by
    funext k
    have hanswer : s.audit.answered host (.datagram (envAt 0) 0
        (establishmentWith 1 smfA [] [] []) (peer smfA)) = false := by
      change (receive host _ 0 _ (peer smfA) s.audit.world).1.toOption.isSome = false
      rw [hrec]
      rfl
    change s.entries host noPdr k ++ s.log k = s.log k
    simp only [noPdr, sendsAt, entries, hest, hanswer, Bool.false_eq_true, if_false,
      List.nil_append]
  have htime : (s.step host noPdr).time = 0 := by
    simp only [step, noPdr, sendsAt, readings, hest, Option.elim_some, hurrs]
    rfl
  change (⟨⟨(s.step host noPdr).audit.sys, ∅, none⟩, (s.step host noPdr).log,
    (s.step host noPdr).time, _⟩ : Journal) = _
  rw [hsys, hlog, htime]
  rfl

theorem Refuses.refused {s : Journal} (h : s.Refuses) (n : ℕ) : (s.refused n).Refuses := h

theorem refused_refused (s : Journal) (n : ℕ) :
    ((s.refused n).refused 1) = s.refused (n + 1) := by
  have hseid : s.audit.srv.nextSeid + UInt64.ofNat n + UInt64.ofNat 1 =
      s.audit.srv.nextSeid + UInt64.ofNat (n + 1) := by
    rw [UInt64.ofNat_add, UInt64.add_assoc]
  have hteid : s.audit.srv.nextTeid + UInt32.ofNat n + UInt32.ofNat 1 =
      s.audit.srv.nextTeid + UInt32.ofNat (n + 1) := by
    rw [UInt32.ofNat_add, UInt32.add_assoc]
  exact congrArg₂ (fun seid teid => s.usedUp seid teid) hseid hteid

/-- Any number of refusals. -/
theorem run_noPdr {s : Journal} (h : s.Refuses) : ∀ n,
    (run (step host) s (List.replicate (n + 1) noPdr)).bare = s.refused (n + 1)
  | 0 => step_noPdr h
  | n + 1 => by
    rw [List.replicate_succ', run_concat, ← step_bare, run_noPdr h n, step_noPdr (h.refused _),
      refused_refused]

/-- Before any session is established. -/
structure Unused (s : Journal) : Prop where
  refuses : s.Refuses
  time : s.time = 0
  rows : s.audit.maps.urrMap.rows.entries = []
  sent : s.sent = 0

theorem Unused.premise {s : Journal} (h : s.Unused) : s.Premise host noPdr := by
  have hstep := step_noPdr h.refuses
  obtain ⟨p, hest, -, hurrs⟩ := h.refuses
  have hread : s.readings host noPdr = [0] := by
    simp only [noPdr, sendsAt, readings, hest, Option.elim_some, hurrs]
    rfl
  refine ⟨?_, ?_, trivial, ?_, ?_⟩
  · rw [hread, h.time]
    decide
  · change (s.step host noPdr).bare.Bounded host
    rw [hstep]
    intro x hx
    change x ∈ s.audit.maps.urrMap.rows.entries at hx
    rw [h.rows] at hx
    cases hx
  · intro p' hp' urr hurr
    obtain rfl : p = p' := Option.some.inj (hest.symm.trans hp')
    rw [hurrs] at hurr
    cases hurr
  · change (s.step host noPdr).bare.sent < 2 ^ 32
    rw [hstep]
    change s.sent < 2 ^ 32
    rw [h.sent]
    decide

theorem Unused.refused {s : Journal} (h : s.Unused) (n : ℕ) : (s.refused n).Unused :=
  ⟨h.refuses.refused n, rfl, h.rows, h.sent⟩

theorem Unused.meets : ∀ (n : ℕ) {s : Journal}, s.Unused →
    Meets (step host) (Premise host) s (List.replicate n noPdr)
  | 0, _, _ => trivial
  | n + 1, s, h => by
    refine ⟨h.premise, ?_⟩
    rw [← meets_bare premise_bare, step_noPdr h.refuses]
    exact (h.refused 1).meets n

/-- The journal when the association is set up. -/
def ready : Journal := (init boot).step host (sendsAt 0 smfA (associationSetup smfA 1))

theorem ready_unused : ready.Unused where
  refuses := by
    have hmap : (establishes (envAt 0) (received (establishmentWith 1 smfA [] [] [])) (peer smfA)
        ready.audit.world).map (fun p => (p.1.createPdrs.findSome? (·.ueIp), p.1.createUrrs)) =
          some (none, []) := by
      decide +kernel
    obtain ⟨p, hp, heq⟩ := Option.map_eq_some_iff.mp hmap
    exact ⟨p, hp, Prod.mk.inj heq⟩
  time := by decide +kernel
  rows := List.eq_nil_of_length_eq_zero (by decide +kernel)
  sent := by decide +kernel

/-- SEID `2 ^ 48` does not fit its key: the reporter takes the row of its URR for one of SEID 0, and
the threshold is never reported. -/
theorem not_sequenced_seid_2_48 :
    Meets (step host) (Premise host) (init boot)
        (sendsAt 0 smfA (associationSetup smfA 1) :: (List.replicate 281474976710655 noPdr ++
          [zeroThreshold, .tick .asStored fun _ => 0])) ∧
      ¬ Meets (step host) (Sequenced host) (init boot)
        (sendsAt 0 smfA (associationSetup smfA 1) :: (List.replicate 281474976710655 noPdr ++
          [zeroThreshold, .tick .asStored fun _ => 0])) := by
  have hrun : (run (step host) ready (List.replicate 281474976710655 noPdr)).bare =
    ready.refused 281474976710655 := run_noPdr ready_unused.refuses 281474976710654
  constructor
  · refine ⟨by decide +kernel, meets_append.mpr ⟨ready_unused.meets _, ?_⟩⟩
    change Meets (step host) (Premise host) (run (step host) ready _) _
    rw [← meets_bare premise_bare, hrun]
    decide +kernel
  · rintro ⟨-, hmeets⟩
    have htail := (meets_append.mp hmeets).2
    change Meets (step host) (Sequenced host) (run (step host) ready _) _ at htail
    rw [← meets_bare sequenced_bare, hrun] at htail
    obtain ⟨-, htick, -⟩ := htail
    have hlive : (((ready.refused 281474976710655).step host
        zeroThreshold).audit.srv.sessions.lookup 281474976710656).isSome := by
      decide +kernel
    have hurr : (((ready.refused 281474976710655).step host
        zeroThreshold).log (281474976710656, 1)).settings.map
          (fun urr => (urr.reportingTriggers, urr.volumeThresholdTotal)) =
        some (reportingTriggerVolth, some 0) := by
      decide +kernel
    have hnone : ((((ready.refused 281474976710655).step host zeroThreshold).step host
        (.tick .asStored fun _ => 0)).log (281474976710656, 1)).volthSince = false := by
      decide +kernel
    obtain ⟨session, hlive⟩ := Option.isSome_iff_exists.mp hlive
    obtain ⟨urr, hurr, heq⟩ := Option.map_eq_some_iff.mp hurr
    obtain ⟨htriggers, hth⟩ := Prod.mk.inj heq
    have hsince := htick.prompt _ _ rfl _ session 1 urr 0 hlive hurr
      (by rw [htriggers]; decide) hth (Nat.zero_le _)
    rw [hnone] at hsince
    cases hsince

end Sim

end Journal

end UpfEdge
