import Consortium.Config.Service
import Consortium.Proofs.Toml.Document

/-!
A configuration that is written is read back. Its text has one entry for each value that it holds,
and only its numbers can keep it from being written: the format knows none above `maxNumber`.
-/

namespace Consortium.ServiceConfig

open Toml Toml.Reader

def stringOf (name text : String) : Entry := ⟨name, writeString text.toList, .string text⟩

def numberOf (name : String) (number : UInt64) : Entry :=
  ⟨name, Nat.toDigits 10 number.toNat, .integer number.toNat⟩

/-- What the text of a configuration consists of. -/
def entries (config : ServiceConfig) : List Entry :=
  [stringOf "data_dir" config.dataDir, numberOf "lock_map_size" config.lockMapSize,
    numberOf "lock_max_age_secs" config.lockMaxAge, stringOf "log_format" config.logFormat.name,
    stringOf "log_level" config.logLevel] ++
    config.defaultNetworkId.toList.map fun id => stringOf "default_network_id" id.text

theorem readable_stringOf {name : String} (bare : IsBare name.toList) (text : String) :
    (stringOf name text).Readable := by
  refine ⟨bare, ?_⟩
  have spelled := spelled_writeString text.toList
  rwa [String.ofList_toList] at spelled

theorem readable_numberOf {name : String} (bare : IsBare name.toList) {number : UInt64}
    (small : number ≤ maxNumber) : (numberOf name number).Readable := by
  refine ⟨bare, ?_⟩
  have bound : Number.ofDigits 10 (Nat.toDigits 10 number.toNat) ≤ Number.maxInteger := by
    rw [Number.ofDigits_toDigits]
    exact Int.ofNat_le.2 (UInt64.le_iff_toNat_le.1 small)
  have spelled := spelled_digits (canonical_toDigits number.toNat) bound
  rwa [Number.ofDigits_toDigits] at spelled

theorem toChars_stringOf (name text : String) :
    (stringOf name text).toChars = (stringEntry name text).toList := by
  simp [stringOf, Entry.toChars, stringEntry, entry]

theorem toChars_numberOf (name : String) (number : UInt64) :
    (numberOf name number).toChars = (entry name (toString number.toNat)).toList := by
  simp [numberOf, Entry.toChars, entry]

theorem toToml_eq_ok_iff {config : ServiceConfig} {text : String} :
    config.toToml = .ok text ↔
      (config.lockMapSize ≤ maxNumber ∧ config.lockMaxAge ≤ maxNumber) ∧
        text.toList = config.entries.flatMap Entry.toChars := by
  unfold toToml
  split
  · rename_i small
    simp only [small, true_and, Except.ok.injEq, and_self]
    rw [← String.toList_inj, eq_comm]
    cases defaultId : config.defaultNetworkId <;>
      simp [entries, defaultId, toChars_stringOf, toChars_numberOf]
  · rename_i large
    simp [large]

theorem readable_entries {config : ServiceConfig} (mapSize : config.lockMapSize ≤ maxNumber)
    (maxAge : config.lockMaxAge ≤ maxNumber) : ∀ entry ∈ config.entries, entry.Readable := by
  have fixed : ∀ entry ∈ [stringOf "data_dir" config.dataDir,
      numberOf "lock_map_size" config.lockMapSize, numberOf "lock_max_age_secs" config.lockMaxAge,
      stringOf "log_format" config.logFormat.name, stringOf "log_level" config.logLevel],
      entry.Readable := by
    simp only [List.forall_mem_cons]
    exact ⟨readable_stringOf (by decide) _, readable_numberOf (by decide) mapSize,
      readable_numberOf (by decide) maxAge, readable_stringOf (by decide) _,
      readable_stringOf (by decide) _, List.forall_mem_nil _⟩
  intro entry member
  rcases List.mem_append.1 member with member | member
  · exact fixed entry member
  · obtain ⟨id, -, rfl⟩ := List.mem_map.1 member
    exact readable_stringOf (by decide) _

theorem distinct_entries (config : ServiceConfig) : (config.entries.map Entry.name).Nodup := by
  cases defaultId : config.defaultNetworkId <;>
    simp [entries, defaultId, stringOf, numberOf]

theorem ofTable?_entries (config : ServiceConfig) :
    ofTable? { Table.empty with
      entries := config.entries.map fun entry => (entry.name, entry.node) } = some config := by
  obtain ⟨dataDir, lockMapSize, lockMaxAge, logFormat, logLevel, defaultNetworkId⟩ := config
  have format : LogFormat.ofName? logFormat.name = some logFormat := by
    cases logFormat <;> decide
  cases defaultNetworkId <;>
    simp [entries, stringOf, numberOf, ofTable?, readOr, Table.get?, List.lookup_cons, readString,
      readNumber, readFormat, format]

/-- Whatever characters the texts hold, the configuration can be written if its numbers are not too
large, and reading what was written gives it back. -/
theorem written_config_is_read_back (config : ServiceConfig) :
    ((∃ text, config.toToml = .ok text) ↔
      config.lockMapSize.toNat ≤ Nat.pow 2 63 - 1 ∧
        config.lockMaxAge.toNat ≤ Nat.pow 2 63 - 1) ∧
      ∀ text, config.toToml = .ok text → ofToml text = .ok config := by
  have small (number : UInt64) : number ≤ maxNumber ↔ number.toNat ≤ Nat.pow 2 63 - 1 :=
    UInt64.le_iff_toNat_le
  constructor
  · rw [← small, ← small]
    constructor
    · intro ⟨text, written⟩
      exact (toToml_eq_ok_iff.1 written).1
    · intro fits
      exact ⟨_, toToml_eq_ok_iff.2 ⟨fits, String.toList_ofList⟩⟩
  · intro text written
    obtain ⟨⟨mapSize, maxAge⟩, spelled⟩ := toToml_eq_ok_iff.1 written
    have table := Table.ofText?_entries spelled (readable_entries mapSize maxAge)
      (distinct_entries config)
    rw [ofToml, table, Option.bind_some, ofTable?_entries]

/-- Its texts hold both kinds of quote, backslashes, controls and both kinds of line end. -/
def unruly : ServiceConfig where
  dataDir := "\n\"\"\"\"\\'''\r\n\t\x00"
  lockMapSize := maxNumber
  lockMaxAge := 0
  logFormat := .json
  logLevel := "C:\\logs\n'''\"\"\""
  defaultNetworkId := some ⟨"\""⟩

theorem unruly_is_read_back :
    (∃ text, unruly.toToml = .ok text ∧ ofToml text = .ok unruly) ∧
      ¬ ∃ text, { unruly with lockMaxAge := maxNumber + 1 }.toToml = .ok text := by
  obtain ⟨succeeds, reads⟩ := written_config_is_read_back unruly
  obtain ⟨text, written⟩ := succeeds.2 (by decide)
  refine ⟨⟨text, written, reads text written⟩, fun fails => ?_⟩
  exact absurd ((written_config_is_read_back _).1.1 fails).2 (by decide)

end Consortium.ServiceConfig
