import HostAgent.Time.Duration

/-!
# Tickers

A ticker is due at once and then once per period. A tick that is taken late
moves the later ones: the next is then due one period after it was taken.
-/

namespace HostAgent.Ticker

/-- A tick is late when it is taken more than this after it was due. -/
def grace : Duration := .ofMillis 5

/-- When the next tick is due, after one that was due at `due` was taken at `taken`. -/
def next (period due taken : Duration) : Duration :=
  if due + grace < taken then taken + period else due + period

end HostAgent.Ticker
