import Consortium.Config.Use
import Consortium.Proofs.Config.RoundTrip
import Consortium.Proofs.Network.Adherence
import Consortium.Proofs.Network.Entry

/-!
Networks that are founded by a configuration. The text of a configuration may name the network to
create, and any name will do. A founding by the configuration records a membership and a group of
the network so named, without a further look at the name; if none is named, of a network whose id is
made up, which is never blank.
-/

namespace Consortium

/-! ### Blank network ids -/

namespace NetworkId

/-- The id is one that nobody may choose: its text is turned away as blank. -/
def IsBlank (id : NetworkId) : Prop :=
  ofText id.text = .error (.invalidNetworkId "network id must not be blank")

instance : DecidablePred IsBlank := fun _ => inferInstanceAs (Decidable (_ = _))

theorem isBlank_iff {id : NetworkId} : id.IsBlank ↔ Text.isBlank id.text = true := by
  unfold IsBlank ofText
  split <;> simp [*]

/-- A uuid is spelled with hyphens. -/
theorem not_isBlank_ofUuid (uuid : Uuid) : ¬ (ofUuid uuid).IsBlank := by
  rw [isBlank_iff, Text.isBlank, List.all_eq_true]
  intro blank
  have hyphen : '-' ∈ (ofUuid uuid).text.toList := by simp [ofUuid, Uuid.toText, Uuid.hyphenate]
  exact absurd (blank '-' hyphen) (by decide)

end NetworkId

/-! ### Named networks -/

namespace ServiceConfig

open Toml Toml.Reader

variable {text name : String} {config : ServiceConfig}

/-- The text names the network to create. -/
def Names (text name : String) : Prop :=
  ∃ table, Table.ofText? text = some table ∧
    table.get? "default_network_id" = some (.string name)

theorem ofToml_eq_ok_iff :
    ofToml text = .ok config ↔
      ∃ table, Table.ofText? text = some table ∧ ofTable? table = some config := by
  rw [← Option.bind_eq_some_iff, ofToml]
  split
  · rename_i read
    rw [read, Except.ok.injEq, Option.some.injEq]
  · rename_i unread
    simp only [unread, reduceCtorEq]

theorem readOr_eq_some_iff {α : Type} {table : Table} {entry : String} {missing value : α}
    {read : Node → Option α} :
    readOr table entry missing read = some value ↔
      (∃ node, table.get? entry = some node ∧ read node = some value) ∨
        table.get? entry = none ∧ missing = value := by
  unfold readOr
  split
  · rename_i node found
    simp [found]
  · rename_i absent
    simp [absent]

theorem readString_eq_some_iff {node : Node} :
    readString node = some name ↔ node = .string name := by
  cases node <;> simp [readString]

theorem readOr_of_ofTable? {table : Table} (read : ofTable? table = some config) :
    readOr table "default_network_id" none
        (fun node => (readString node).map fun text => some ⟨text⟩) =
      some config.defaultNetworkId := by
  simp only [ofTable?, Option.bind_eq_bind, Option.bind_eq_some_iff, Option.some.injEq] at read
  obtain ⟨_, _, _, _, _, _, _, _, _, _, _, named, rfl⟩ := read
  exact named

theorem names_iff (accepted : ofToml text = .ok config) :
    Names text name ↔ config.defaultNetworkId = some ⟨name⟩ := by
  obtain ⟨table, isTable, read⟩ := ofToml_eq_ok_iff.1 accepted
  -- The entry is there, and then it is a string, since the text was accepted; or it is left out.
  have named := readOr_eq_some_iff.1 (readOr_of_ofTable? read)
  simp only [Names, isTable, Option.some.injEq, exists_eq_left']
  rcases named with ⟨node, found, isString⟩ | ⟨absent, missing⟩
  · obtain ⟨given, isGiven, isId⟩ := Option.map_eq_some_iff.1 isString
    rw [found, readString_eq_some_iff.1 isGiven, ← isId]
    simp
  · rw [absent, ← missing]
    exact iff_of_false nofun nofun

/-- Whatever characters the name holds, a text of one entry names it. -/
theorem exists_names (name : String) :
    ∃ text config, ofToml text = .ok config ∧ Names text name := by
  have readable : ∀ entry ∈ [stringOf "default_network_id" name], entry.Readable :=
    List.forall_mem_singleton.2 (readable_stringOf (by decide) name)
  have spelled : (stringEntry "default_network_id" name).toList =
      [stringOf "default_network_id" name].flatMap Entry.toChars := by
    simp [toChars_stringOf]
  have table := Table.ofText?_entries spelled readable (List.nodup_singleton _)
  have accepted : ofToml (stringEntry "default_network_id" name) =
      .ok { standard with defaultNetworkId := some ⟨name⟩ } :=
    ofToml_eq_ok_iff.2 ⟨_, table, rfl⟩
  exact ⟨_, _, accepted, (names_iff accepted).2 rfl⟩

/-- The network that a founding by the configuration is about. -/
def foundedNetwork (config : ServiceConfig) (ids : FreshIds) : NetworkId :=
  config.defaultNetworkId.getD (.ofUuid ids.network)

theorem foundedNetwork_of_names (accepted : ofToml text = .ok config) (ids : FreshIds)
    (named : Names text name) : config.foundedNetwork ids = ⟨name⟩ := by
  rw [foundedNetwork, (names_iff accepted).1 named, Option.getD_some]

theorem isBlank_foundedNetwork_iff (accepted : ofToml text = .ok config) (ids : FreshIds) :
    (config.foundedNetwork ids).IsBlank ↔ ∃ id : NetworkId, id.IsBlank ∧ Names text id.text := by
  simp only [names_iff accepted, foundedNetwork]
  cases config.defaultNetworkId with
  | none => exact iff_of_false (NetworkId.not_isBlank_ofUuid _) nofun
  | some id => simp

end ServiceConfig

/-! ### Foundings -/

/-- The transaction issues a membership and a group, both of this network. -/
def Transaction.Founds (tx : Transaction) (networkId : NetworkId) : Prop :=
  ∃ membership group, tx.outputs = [.ofMembership membership, .ofGroup group] ∧
    membership.networkId = networkId ∧ group.networkId = networkId

namespace Coordinator

variable {coordinator : Coordinator} {founding : NetworkFounding} {ids : FreshIds} {plan : Plan}

/-- A founding that passes its checks is planned for the network that was chosen, if one was. -/
theorem foundingPlan_of_planned {π : Type} [Platform π] {platform : π}
    (planned : coordinator.plan (.found founding) ids platform = .ok plan) :
    coordinator.foundingPlan founding (founding.networkId.getD (.ofUuid ids.network)) ids =
      plan := by
  obtain ⟨isThere, _, planned⟩ := bind_eq_ok_iff.1 planned
  cases isThere with
  | true => cases planned
  | false =>
      obtain ⟨_, _, planned⟩ := bind_eq_ok_iff.1 planned
      exact Except.ok.inj planned

theorem founds_of_drafted {π : Type} [Platform π] {platform : π}
    (planned : coordinator.plan (.found founding) ids platform = .ok plan) {tx : Transaction}
    {now : Timestamp} (proposes : tx.unsigned = (plan.draft now).unsigned) :
    tx.Founds (founding.networkId.getD (.ofUuid ids.network)) := by
  rw [← foundingPlan_of_planned planned] at proposes
  exact ⟨_, _, congrArg Transaction.outputs proposes, rfl, rfl⟩

end Coordinator

section Signing

variable [Suite] {σ : Type} [LockStore σ]

/-- What a turn of a founding does to the ledger, whatever goes on around it. -/
theorem Interleaving.founds_of_advance {state : Interleaving Ledger σ}
    {permitted : Interleaving Ledger σ → Turn Ledger σ → Prop} {ledger : Ledger} {locks : σ}
    {clock : Timestamp} (reaches : Reaches permitted (opened ledger locks clock) state)
    {position : Nat} {operation : Operation Ledger}
    (found : state.operations[position]? = some operation) {founding : NetworkFounding}
    (isFounding : operation.request = .found founding) :
    (∃ proposals, (state.step (.advance position)).services.platform =
      { state.services.platform with proposals }) ∨
    ∃ tx : Transaction,
      (state.step (.advance position)).services.platform = state.services.platform.record tx ∧
        tx.Founds (founding.networkId.getD (.ofUuid operation.ids.network)) := by
  have goesByPlan := reaches.goesByPlan operation (List.mem_of_getElem? found)
  refine (recorded_of_advance found goesByPlan).imp_right ?_
  intro ⟨view, plan, now, tx, planned, proposes, recorded⟩
  rw [isFounding] at planned
  exact ⟨tx, recorded, Coordinator.founds_of_drafted planned proposes⟩

theorem Coordinator.founds_of_run {coordinator : Coordinator} {founding : NetworkFounding}
    {ids : FreshIds} {services : Services Ledger σ} {outcome : Outcome}
    (ran : (coordinator.run (.found founding) ids services).1 = .ok outcome) :
    ∃ (tx : Transaction) (proposals : Nat),
      (coordinator.run (.found founding) ids services).2.platform =
          { services.platform.record tx with proposals } ∧
        tx.Founds (founding.networkId.getD (.ofUuid ids.network)) := by
  obtain ⟨plan, planned, _, submitted⟩ := run_eq_ok_iff.1 ⟨ran, rfl⟩
  obtain ⟨signed, collected, _, _, _, recorded⟩ := submit_eq_ok_iff.1 submitted
  exact ⟨signed, _, recorded.symm,
    founds_of_drafted planned (Plan.proposes_of_collected collected)⟩

namespace ServiceConfig

open Interleaving

/-- In the course of whatever else happens, a founding by a configuration records nothing but a
membership and a group of one network: the one that the text of the configuration names, if it names
one. The id of the network is blank exactly if the text names a blank one. A network that is named
does get founded if it does not exist yet and its lock is granted, and there is no name that a text
cannot give. -/
theorem networks_are_founded_as_named :
    (∀ text config, ofToml text = .ok config →
      (∀ permitted ledger (locks : σ) clock (state : Interleaving Ledger σ),
        Reaches permitted (opened ledger locks clock) state →
        ∀ position operation, state.operations[position]? = some operation →
        operation.request = .found config.founding →
        let before := state.services.platform
        let after := (state.step (.advance position)).services.platform
        (∃ proposals, after = { before with proposals }) ∨
          ∃ (tx : Transaction) (networkId : NetworkId), after = before.record tx ∧
            tx.Founds networkId ∧ (∀ name, Names text name → networkId = ⟨name⟩) ∧
            (networkId.IsBlank ↔ ∃ id : NetworkId, id.IsBlank ∧ Names text id.text)) ∧
      ∀ networkId : NetworkId, Names text networkId.text →
        ∀ (locks : σ) clock (state : Interleaving Ledger σ),
        Reaches KeepsOrder (opened (.empty .standard) locks clock) state →
        ∀ coordinator name keys, keys.Signs →
        Coordinator.create name keys .standard = .ok coordinator →
        ∀ ids, state.services.platform.networkExists networkId = false →
        LockStore.Grants ids.lock state.services.clock 0 [.ofNetwork networkId]
          state.services.locks →
        ∃ (tx : Transaction) (proposals : Nat),
          (coordinator.run (.found config.founding) ids state.services).2.platform =
              { state.services.platform.record tx with proposals } ∧
            tx.Founds networkId) ∧
    ∀ name, ∃ text config, ofToml text = .ok config ∧ Names text name := by
  refine ⟨fun text config accepted => ⟨?founds, ?founded⟩, exists_names⟩
  case founds =>
    intro permitted ledger locks clock state reaches position operation found isFounding
    refine (founds_of_advance reaches found isFounding).imp_right ?_
    intro ⟨tx, recorded, founds⟩
    exact ⟨tx, _, recorded, founds, fun name => foundedNetwork_of_names accepted operation.ids,
      isBlank_foundedNetwork_iff accepted operation.ids⟩
  case founded =>
    intro networkId named locks clock state reaches coordinator name keys signs created ids absent
      granted
    have isNamed : config.foundedNetwork ids = networkId :=
      foundedNetwork_of_names accepted ids named
    -- With no id chosen for its group, the founding claims the network and nothing else.
    rw [← isNamed] at absent granted ⊢
    have room : state.services.platform.HasRoomFor (config.foundedNetwork ids) none :=
      ⟨Ledger.not_occupies_of_networkExists absent, nofun⟩
    have genuine := Coordinator.genuine_of_create signs created
    have inShape := reaches.sound.history _ List.mem_cons_self
    obtain ⟨outcome, ran⟩ : ∃ outcome,
        (coordinator.run (.found config.founding) ids state.services).1 = .ok outcome :=
      (Coordinator.run_founding_isOk_iff genuine inShape).2 ⟨room, granted⟩
    exact Coordinator.founds_of_run ran

end ServiceConfig

end Signing

section Specimen

open Transparent

namespace ServiceConfig

open Interleaving

/-- The name is an ideographic space and a tab, both spelled as escapes. -/
def spacedText : String := "default_network_id = \"\\u3000\\t\""

def spaced : ServiceConfig := { standard with defaultNetworkId := some ⟨"\u3000\t"⟩ }

/-- The founding by this configuration is about to be recorded. -/
def spacedFounding : Interleaving Ledger LockTable :=
  letI := suite
  blank.attempt (underStandard founder 1) (.found spaced.founding) (Session.idsOf 8) 4

set_option maxRecDepth 10000 in
theorem spacedFounding_is_recorded :
    letI := suite
    ofToml spacedText = .ok spaced ∧
      spacedFounding.operations[0]?.map Operation.request = some (.found spaced.founding) ∧
      spacedFounding.services.platform.transactions.length = 0 ∧
      (spacedFounding.step (.advance 0)).services.platform.transactions.length = 1 := by
  decide +kernel

/-- It is recorded at its turn, and so it is if nothing comes between its turns. -/
theorem spaced_network_is_founded :
    letI := suite
    (∃ (tx : Transaction) (networkId : NetworkId),
      (spacedFounding.step (.advance 0)).services.platform =
          spacedFounding.services.platform.record tx ∧
        tx.Founds networkId ∧ networkId.IsBlank) ∧
      ∃ (tx : Transaction) (proposals : Nat),
        ((underStandard founder 1).run (.found spaced.founding) (Session.idsOf 8)
            blank.services).2.platform = { blank.services.platform.record tx with proposals } ∧
          tx.Founds ⟨"\u3000\t"⟩ := by
  let _ := suite
  obtain ⟨accepted, asked, before, after⟩ := spacedFounding_is_recorded
  obtain ⟨founds, founded⟩ := (networks_are_founded_as_named (σ := LockTable)).1 _ _ accepted
  have named : Names spacedText "\u3000\t" := (names_iff accepted).2 rfl
  constructor
  · obtain ⟨operation, found, isFounding⟩ := Option.map_eq_some_iff.1 asked
    rcases founds _ _ _ _ spacedFounding (reaches_attempt "Founder" 1 rfl .start) 0 operation found
      isFounding with ⟨proposals, counted⟩ | ⟨tx, networkId, recorded, founds, _, isBlank⟩
    · rw [counted, before] at after
      cases after
    · exact ⟨tx, networkId, recorded, founds, isBlank.2 ⟨⟨"\u3000\t"⟩, by decide, named⟩⟩
  · refine founded ⟨"\u3000\t"⟩ named _ _ blank .start _ "Founder" (keys 1) (signs_keys 1)
      (create_underStandard "Founder" 1 rfl) (Session.idsOf 8) (by decide) ?_
    exact (LockTable.grants_iff (List.nodup_singleton _)).2 ⟨fun _ => rfl, by decide⟩

set_option maxRecDepth 10000 in
/-- A network with the name of a single space has a member and a group after its founding. -/
theorem blank_network_is_founded :
    letI := suite
    let config : ServiceConfig := { standard with defaultNetworkId := some ⟨" "⟩ }
    let after := ((underStandard founder 1).run (.found config.founding) (Session.idsOf 8)
      blank.services).2.platform
    ofToml "default_network_id = \" \"" = .ok config ∧ blank.services.platform.states = [] ∧
      after.states.map (fun recorded => recorded.state.data.kind) = [.membership, .group] ∧
      ∀ recorded ∈ after.states, recorded.state.data.header.networkId.IsBlank := by
  decide +kernel

end ServiceConfig

end Specimen

end Consortium
