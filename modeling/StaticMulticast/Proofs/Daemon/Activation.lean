import StaticMulticast.Proofs.Configuration.Activation
import StaticMulticast.Proofs.Daemon.Reload
import StaticMulticast.Proofs.Interface.Defaults
import StaticMulticast.Proofs.Tables.Concatenation

/-!
# Enabling by default and by the configuration

A daemon that enables all interfaces by default comes to the tables of one that does not, but finds
a line for each interface at the beginning of its file (`Daemon.defaults_eq_activationLines`). Both
enable the interfaces in the order of their names, so both leave out the same ones if there are more
than slots.
-/

namespace StaticMulticast

open StaticMulticast.Configuration

namespace Tables

variable {settings : Settings} {afterwards : Tables → Outcome Tables Event (Except Failure Unit)}

/-- The lines for interfaces enable one after the other. -/
theorem run_activationLines (hthreshold : settings.threshold = defaultThreshold)
    {names : List String} (hnames : ∀ name ∈ names, IsToken name)
    (hlengths : ∀ name ∈ names, (activationText name).utf8ByteSize ≤ longestLine) (number : Nat)
    (tables : Tables) :
    (Pass.run (collaborators afterwards) settings number
        ((names.map fun name => (activationText name).toUTF8.toList).map .whole) tables).state =
      { tables with registry := (tables.registry.enableEach names).state } := by
  induction names generalizing number tables with
  | nil => rfl
  | cons name rest ih =>
      obtain ⟨hname, hothers⟩ := List.forall_mem_cons.1 hnames
      obtain ⟨hlength, hshort⟩ := List.forall_mem_cons.1 hlengths
      have hasked : (Line.whole (activationText name).toUTF8.toList).asked? settings
          tables.registry.forwarding? = some (.enable name defaultThreshold) := by
        rw [← hthreshold]
        exact asked?_activation hname hlength
      have hlookup : (collaborators afterwards).lookup tables = tables.registry.forwarding? := rfl
      obtain ⟨-, hstate⟩ := Pass.handle_of_asked?_eq_some hasked number hlookup
      simp only [List.map_cons, Pass.run, hstate, Registry.enableEach_cons_state]
      exact ih hothers hshort (number + 1) _

end Tables

/-- With interfaces enabled by default or without, the other choices are the same. -/
theorem Setup.ofOptions_noVifs {options : CommandLine.Options} {setup : Setup}
    (h : ofOptions { options with noVifs := false } = .ok setup) :
    setup.enablesByDefault = true ∧
      ofOptions { options with noVifs := true } = .ok { setup with enablesByDefault := false } := by
  unfold ofOptions at h ⊢
  split at h
  · cases h
  · rename_i hscript
    cases h
    exact ⟨rfl, if_neg hscript⟩

namespace Daemon

/-- If the file begins with lines for interfaces, these are enabled before its other lines are
read. -/
theorem load_tables_of_activationLines {daemon : Daemon} {names : List String}
    (hnames : ∀ name ∈ names, IsToken name)
    (hlengths : ∀ name ∈ names, (activationText name).utf8ByteSize ≤ longestLine)
    {chunks : List (List UInt8)} {octets : List UInt8}
    (hchunks : chunks.flatten = activationLines names ++ octets) {environment : Host.Environment}
    (hopen : environment.openFile daemon.setup.configFile = .ok (chunks.map .data)) :
    (daemon.load environment).state.tables =
      (Pass.run (Tables.collaborators Tables.nothingAfterwards) daemon.setup.settings
        (1 + names.length) ((wholeLines octets).map .whole)
        { daemon.tables with
          registry := (daemon.tables.registry.enableEach names).state }).state := by
  have hthreshold : daemon.setup.settings.threshold = defaultThreshold := rfl
  rw [load_tables_of_data hopen, hchunks, wholeLines_activationLines hnames, List.map_append,
    Pass.run_append]
  simp only [Tables.run_activationLines hthreshold hnames hlengths, List.length_map]

/-- The tables of a new daemon that has enabled its interfaces by default. -/
theorem enableByDefault_fresh {setup : Setup} (hdefault : setup.enablesByDefault = true)
    {interfaces : List (String × Nat)} {names : List String}
    (hascending : Ordered.Ascending id names)
    (hnames : ∀ name, name ∈ names ↔ name ∈ interfaces.map Prod.fst) :
    let fresh := fresh setup interfaces
    fresh.enableByDefault.state =
      { fresh with
        tables := { fresh.tables with
          registry := (fresh.tables.registry.enableEach names).state } } := by
  intro fresh
  have hlisted : fresh.tables.registry.interfaces.map Interface.name = names :=
    Registry.names_known_eq setup.ipv6 hascending hnames
  rw [enableByDefault, show fresh.setup.enablesByDefault = true from hdefault, ← hlisted]
  rfl

/-- A new daemon that enables its interfaces by default settles them in order, without looking for
their names. -/
theorem enableByDefault_settled {setup : Setup} (hdefault : setup.enablesByDefault = true)
    (interfaces : List (String × Nat)) :
    let known := Registry.known setup.ipv6 interfaces
    let settled := Registry.settleAll known.ipv6 known.vifs known.interfaces
    (fresh setup interfaces).enableByDefault.state.tables =
      .initial ⟨known.ipv6, settled.1, settled.2, if known.ipv6 then settled.2 else .empty⟩ := by
  intro known settled
  have hregistry := ((Registry.consistent_known setup.ipv6 interfaces).enableEach_settleAll
    (List.nil_append known.interfaces).symm).1
  rw [enableByDefault, show (fresh setup interfaces).setup.enablesByDefault = true from hdefault]
  exact congrArg Tables.initial hregistry

/-- A daemon that enables all interfaces by default has, once it is started, the tables of one that
does not but finds lines before the same file that enable the interfaces, in the order of their
names. The names have to be words short enough for such a line, and the lines of the file that are
about interfaces have to say which of them are enabled, as far as they make a statement. -/
theorem defaults_eq_activationLines {options : CommandLine.Options} {setup : Setup}
    (hsetup : Setup.ofOptions { options with noVifs := false } = .ok setup)
    {interfaces : List (String × Nat)}
    (htokens : ∀ entry ∈ interfaces, IsToken entry.1)
    (hlengths : ∀ entry ∈ interfaces, (activationText entry.1).utf8ByteSize ≤ longestLine)
    {names : List String} (hascending : Ordered.Ascending id names)
    (hnames : ∀ name, name ∈ names ↔ name ∈ interfaces.map Prod.fst)
    {chunks pieces : List (List UInt8)}
    (hpieces : pieces.flatten = activationLines names ++ chunks.flatten)
    {environment other : Host.Environment}
    (hopen : environment.openFile setup.configFile = .ok (chunks.map .data))
    (hother : other.openFile setup.configFile = .ok (pieces.map .data))
    (hstatements : ∀ octets ∈ wholeLines chunks.flatten,
      (Line.whole octets).command? = some .interface →
        (Line.whole octets).statement? { setup.settings with defaultEnable := true } =
          (Line.whole octets).statement? { setup.settings with defaultEnable := false }) :
    ∃ explicit, Setup.ofOptions { options with noVifs := true } = .ok explicit ∧
      (started explicit interfaces other).tables =
        (started setup interfaces environment).tables := by
  obtain ⟨hdefault, hexplicit⟩ := Setup.ofOptions_noVifs hsetup
  refine ⟨_, hexplicit, ?_⟩
  let explicit : Setup := { setup with enablesByDefault := false }
  let fresh := fresh setup interfaces
  have hname : ∀ name ∈ names, ∃ entry ∈ interfaces, entry.1 = name :=
    fun name hmem => List.mem_map.1 ((hnames name).1 hmem)
  have hwords : ∀ name ∈ names, IsToken name := by
    intro name hmem
    obtain ⟨entry, hentry, rfl⟩ := hname name hmem
    exact htokens entry hentry
  have hshort : ∀ name ∈ names, (activationText name).utf8ByteSize ≤ longestLine := by
    intro name hmem
    obtain ⟨entry, hentry, rfl⟩ := hname name hmem
    exact hlengths entry hentry
  -- Both daemons come to the same tables before the lines of the file itself.
  have henabled := enableByDefault_fresh hdefault hascending hnames
  have hstarted : (started setup interfaces environment).tables =
      (Pass.run (Tables.collaborators Tables.nothingAfterwards) setup.settings 1
        ((wholeLines chunks.flatten).map .whole)
        { fresh.tables with
          registry := (fresh.tables.registry.enableEach names).state }).state := by
    rw [started, henabled]
    exact load_tables_of_data hopen
  have hwritten : (started explicit interfaces other).tables =
      (Pass.run (Tables.collaborators Tables.nothingAfterwards) explicit.settings (1 + names.length)
        ((wholeLines chunks.flatten).map .whole)
        { fresh.tables with
          registry := (fresh.tables.registry.enableEach names).state }).state :=
    load_tables_of_activationLines hwords hshort hpieces hother
  have hipv6 : explicit.settings.ipv6 = setup.settings.ipv6 := rfl
  have hlines : ∀ line ∈ (wholeLines chunks.flatten).map Line.whole,
      line.statement? explicit.settings = line.statement? setup.settings := by
    intro line hline
    obtain ⟨octets, hoctets, rfl⟩ := List.mem_map.1 hline
    by_cases hcommand : (Line.whole octets).command? = some .interface
    · have hsettings : setup.settings = { setup.settings with defaultEnable := true } := by
        rw [Setup.settings, hdefault]
      rw [hsettings]
      exact (hstatements octets hoctets hcommand).symm
    · exact Line.statement?_eq_of_command?_ne hcommand _ _
  calc (started explicit interfaces other).tables
      = _ := hwritten
    _ = _ := Pass.run_state_of_statement?_eq hipv6 hlines _ 1 _
    _ = (started setup interfaces environment).tables := hstarted.symm

/-- There are two interfaces more than slots, and some of them are called like keywords. -/
theorem defaults_eq_activationLines_few_slots :
    let setup : Setup := ⟨defaultConfigFile, none, none, .human, true, true⟩
    let explicit := { setup with enablesByDefault := false }
    let numbered := (List.range 30).map fun number => "eth" ++ toString (number + 10)
    let names := ["enable"] ++ numbered ++ ["from", "phyint", "to"]
    let interfaces := names.zipIdx.reverse
    let file :=
      "phyint eth10 disable\nmroute from enable group 224.1.1.1 to eth11".toUTF8.toList
    let host := fun chunks : List (List UInt8) =>
      Host.Environment.mk (fun _ => .ok (chunks.map .data)) fun _ => .error .missing
    let tables := (started setup interfaces (host [file])).tables
    names.length = slotCount + 2 ∧ tables.registry.enabled.length = slotCount - 1 ∧
      (started explicit interfaces (host [activationLines names, file])).tables = tables := by
  intro setup explicit numbered names interfaces file host tables
  let options : CommandLine.Options := ⟨none, none, none, none, true, false⟩
  have hsetup : Setup.ofOptions { options with noVifs := false } = .ok setup := rfl
  have hentries : (∀ entry ∈ interfaces, IsToken entry.1) ∧
      (∀ entry ∈ interfaces, (activationText entry.1).utf8ByteSize ≤ longestLine) ∧
      names.IsChain fun one next => compare (id one) (id next) = .lt := by
    decide +kernel
  obtain ⟨htokens, hlengths, hchain⟩ := hentries
  have hascending : Ordered.Ascending id names := Ordered.ascending_of_isChain hchain
  have hnames : ∀ name, name ∈ names ↔ name ∈ interfaces.map Prod.fst := by
    intro name
    simp only [interfaces, List.map_reverse, List.mem_reverse, List.zipIdx_map_fst]
  have hpieces : [activationLines names, file].flatten = activationLines names ++ [file].flatten :=
    List.flatten_cons
  have hstatements : ∀ octets ∈ wholeLines [file].flatten,
      (Line.whole octets).command? = some .interface →
        (Line.whole octets).statement? { setup.settings with defaultEnable := true } =
          (Line.whole octets).statement? { setup.settings with defaultEnable := false } := by
    decide +kernel
  have hopen : (host [file]).openFile setup.configFile = .ok ([file].map .data) := rfl
  have hother : (host [activationLines names, file]).openFile setup.configFile =
      .ok ([activationLines names, file].map .data) := rfl
  obtain ⟨_, hexplicit, htables⟩ := defaults_eq_activationLines hsetup htokens hlengths hascending
    hnames hpieces hopen hother hstatements
  cases hexplicit
  have hloaded : tables = (Pass.run (Tables.collaborators Tables.nothingAfterwards) setup.settings 1
      ((wholeLines [file].flatten).map .whole)
      (fresh setup interfaces).enableByDefault.state.tables).state :=
    load_tables_of_data hopen
  have hlisted : Ordered.Ascending Prod.fst names.zipIdx := by
    rw [← List.zipIdx_map_fst 0 names] at hascending
    exact List.pairwise_map.1 hascending
  have hknown : Registry.known setup.ipv6 interfaces = _ :=
    Registry.known_reverse setup.ipv6 hlisted
  have henabled : tables.registry.enabled.length = slotCount - 1 := by
    rw [hloaded, enableByDefault_settled (show setup.enablesByDefault = true from rfl), hknown]
    decide +kernel
  exact ⟨by decide, henabled, htables⟩

end Daemon

end StaticMulticast
