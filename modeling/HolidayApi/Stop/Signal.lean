/-! # Signals

    The two signals of the operating system on which the server stops.
-/

namespace HolidayApi.Stop

/-- A signal that asks the program to stop. -/
inductive Signal where
  | interrupt
  | terminate
  deriving DecidableEq, Repr

/-- The name of the signal in logs. -/
def Signal.name : Signal → String
  | interrupt => "SIGINT"
  | terminate => "SIGTERM"

end HolidayApi.Stop
