import GiftExchange.Log.Event

set_option autoImplicit false

/-! # What the library says about itself -/

namespace GiftExchange.About

/-- The answer to a sign of life. -/
def ping : String := "pong"

/-- The version of the library. -/
def version : String := "0.1.0"

/-- How the library is built. -/
def buildMode : String := "debug"

/-- The level that is logged at unless another one is asked for. -/
def defaultLevel : Level := .debug

end GiftExchange.About
