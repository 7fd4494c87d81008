import SeriesBench.Random.Uniform
import SeriesBench.WorkloadError

set_option autoImplicit false

namespace SeriesBench
open SeriesBench.Random

def cpuMeasurement : String := "cpu"

def hostnameTag : String := "hostname"

def cpuMetrics : List String :=
  ["usage_user", "usage_system", "usage_idle", "usage_nice", "usage_iowait", "usage_irq",
    "usage_softirq", "usage_steal", "usage_guest", "usage_guest_nice"]

def firstMetrics (count : Nat) : Except WorkloadError (List String) :=
  if 0 < count ∧ count ≤ cpuMetrics.length then .ok (cpuMetrics.take count)
  else .error (.metricCount count cpuMetrics.length)

structure Host where
  name : String
  region : String
  datacenter : String
  rack : String
  os : String
  arch : String
  team : String
  service : String
deriving DecidableEq, Repr

namespace Host

def regions : Array (String × Array String) :=
  #[("us-east-1", #["us-east-1a", "us-east-1b", "us-east-1c", "us-east-1e"]),
    ("us-west-1", #["us-west-1a", "us-west-1b"]),
    ("us-west-2", #["us-west-2a", "us-west-2b", "us-west-2c"]),
    ("eu-west-1", #["eu-west-1a", "eu-west-1b", "eu-west-1c"]),
    ("eu-central-1", #["eu-central-1a", "eu-central-1b"]),
    ("ap-southeast-1", #["ap-southeast-1a", "ap-southeast-1b"]),
    ("ap-southeast-2", #["ap-southeast-2a", "ap-southeast-2b"]),
    ("ap-northeast-1", #["ap-northeast-1a", "ap-northeast-1c"]),
    ("sa-east-1", #["sa-east-1a", "sa-east-1b", "sa-east-1c"])]

def operatingSystems : Array String := #["Ubuntu16.10", "Ubuntu16.04LTS", "Ubuntu15.10"]

def architectures : Array String := #["x64", "x86"]

def teams : Array String := #["SF", "NYC", "LON", "CHI"]

def rackCount : Nat := 100

def serviceCount : Nat := 20

def hostname (id : Nat) : String := "host_" ++ toString id

def draw (id : Nat) : Draw Host := do
  let (region, datacenters) ← pick .full regions
  let datacenter ← pick .full datacenters
  let rack ← drawBelow .half rackCount
  let os ← pick .half operatingSystems
  let arch ← pick .half architectures
  let team ← pick .half teams
  let service ← drawBelow .half serviceCount
  return {
    name := hostname id
    region, datacenter
    rack := toString rack
    os, arch, team
    service := toString service }

def tags (h : Host) : List (String × String) :=
  [(hostnameTag, h.name), ("region", h.region), ("datacenter", h.datacenter), ("rack", h.rack),
    ("os", h.os), ("arch", h.arch), ("team", h.team), ("service", h.service)]

end Host

structure Fleet where
  hosts : List Host
deriving DecidableEq, Repr

namespace Fleet

/-- Whether so many hosts can be kept, of 152 bytes each, where addresses have 63 bits. -/
def isAddressable (scale : Nat) : Bool := scale * 152 ≤ 9223372036854775807

def generate (scale : Nat) (seed : UInt64) : Fleet :=
  ⟨(((List.range scale).mapM Host.draw).run (Generator.ofSeed seed)).1⟩

def scale (f : Fleet) : Nat := f.hosts.length

end Fleet
end SeriesBench
