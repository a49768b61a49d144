import Beacon.Number.Spelling
import Beacon.Text.Basic

/-!
# Settings

How a node is reached when the command line does not say: its address and the
number of seconds to wait for it. Both may be set in the environment. An
address has to say that it is one of the web, and a time to wait has to be
positive; what is set and is neither keeps the program from starting.

## Main definitions

* `Settings`: How a node is reached.
* `SettingsFault`: Why a setting is refused.
* `Settings.read`: The settings of an environment.
-/

namespace Beacon

/-- How a node is reached when nothing else is said. -/
structure Settings where
  /-- The address of the node. -/
  url : Text
  /-- How many seconds to wait. -/
  timeout : Binary64
  deriving DecidableEq, Repr

/-- Why a setting is refused. -/
inductive SettingsFault
  /-- The address is not one of the web. -/
  | notWeb (url : Text)
  /-- The time to wait is no number. -/
  | notNumber (timeout : Text)
  /-- The time to wait is not positive. -/
  | notPositive (timeout : Text)
  deriving DecidableEq, Repr

namespace Settings

/-- The variable that sets the address. -/
def urlVariable : String := "BLOCKINFO_BEACON_NODE_URL"

/-- The variable that sets the time to wait. -/
def timeoutVariable : String := "BLOCKINFO_TIMEOUT"

/-- The address where none is set. -/
def defaultUrl : String := "http://localhost:5052"

/-- The time to wait where none is set. -/
def defaultTimeout : String := "30"

end Settings

namespace SettingsFault

/-- What is said about a value of a variable that is refused. -/
def refusing (setting : String) (value : Text) (expected : String) : Text :=
  s!"Invalid {setting} environment variable: '" ++ value ++ s!"'. Expected {expected}"

/-- The text of a fault. -/
def message : SettingsFault → Text
  | notWeb url => refusing Settings.urlVariable url "an http:// or https:// URL"
  | notNumber timeout => refusing Settings.timeoutVariable timeout "a number of seconds"
  | notPositive timeout =>
    refusing Settings.timeoutVariable timeout "a positive number of seconds"

end SettingsFault

namespace Settings

/-- Whether an address says that it is one of the web. -/
def isWeb (url : Text) : Bool :=
  (Text.ofString "http://").isPrefixOf url || (Text.ofString "https://").isPrefixOf url

/-- The settings of an environment in which the variables have these values. -/
def read (url? timeout? : Option Text) : Except SettingsFault Settings :=
  let url := url?.getD defaultUrl
  let timeout := timeout?.getD defaultTimeout
  if !isWeb url then .error (.notWeb url)
  else match Binary64.ofText? timeout.legible with
    | none => .error (.notNumber timeout)
    | some seconds =>
      if seconds.isNonPositive then .error (.notPositive timeout) else .ok ⟨url, seconds⟩

end Settings

end Beacon
