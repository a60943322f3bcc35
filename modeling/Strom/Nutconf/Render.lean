import Strom.Nutconf.Names

/-!
# Rendered NUT files (`render.go`)

The texts of the configuration files that are generated from the scanned devices and
the NUT user.
-/

namespace Strom.Nutconf

open Strom.Go

structure UPSDUser where
  username : String
  password : String
deriving DecidableEq, Repr

def upsDescription (device : DetectedUPS) : String :=
  let parts := [device.vendor, device.product].filter (· ≠ "")
  trimSpace (" ".intercalate parts)

/-- What `RenderUPSConf` sorts the sections by. -/
def sectionOrder (device : DetectedUPS) : Bytes :=
  if device.name = [] then utf8 device.stableKey else device.name

def sectionName (device : DetectedUPS) : Bytes :=
  if device.name = [] then nextAvailableUPSName (stableNameSource device) [] else device.name

def renderSection (device : DetectedUPS) : Bytes :=
  let desc := upsDescription device
  utf8 "[" ++ sectionName device ++ utf8 "]\n" ++
    utf8 ("  driver = " ++ device.driver ++ "\n") ++
    utf8 ("  port = " ++ device.port ++ "\n") ++
    if desc = "" then [] else utf8 ("  desc = " ++ desc ++ "\n")

def renderUPSConf (devices : List DetectedUPS) : Bytes :=
  let sorted := devices.mergeSort fun a b => !decide (sectionOrder b < sectionOrder a)
  (utf8 "\n").intercalate (sorted.map renderSection)

def renderNutConf : String := "MODE=netserver\n"

def renderUPSDConf : String := "LISTEN 0.0.0.0 3493\nLISTEN :: 3493\n"

def renderUPSDUsers (user : UPSDUser) : String :=
  "# TODO: replace this local plaintext credential with controller provisioning in Phase 3.\n" ++
    "[" ++ user.username ++ "]\n" ++
    "  password = " ++ user.password ++ "\n" ++
    "  actions = SET\n" ++
    "  instcmds = ALL\n"

example : renderUPSConf [{ name := utf8 "ups-1", driver := "usbhid-ups", port := "auto" }] =
    utf8 "[ups-1]\n  driver = usbhid-ups\n  port = auto\n" := by decide +kernel

/-! ## The name map as JSON -/

/-- `encoding/json` replaces the bytes of a text that are not UTF-8. -/
def NameMap.encoded (m : NameMap) : NameMap where
  entries := m.entries.map fun entry => (entry.1, utf8 (textOf entry.2))
  sorted := List.pairwise_map.mpr m.sorted

theorem NameMap.ext_entries {m m' : NameMap} (same : m.entries = m'.entries) : m = m' := by
  cases m
  cases m'
  simp_all

instance : DecidableEq NameMap := fun m m' =>
  decidable_of_iff (m.entries = m'.entries) ⟨NameMap.ext_entries, fun same => same ▸ rfl⟩

end Strom.Nutconf
