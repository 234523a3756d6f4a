import Vigil.RingBuffer

/-!
# Configuration record and per-connection statistics

The data of `config.h` that the reactors read at run time, with the defaults
the source gives them, and the counters of `stats.h`.  Durations are kept in
milliseconds as in the source; `toNs` is the conversion every user of them
applies.
-/

namespace Vigil

structure FeedEndpoint where
  feedId : BitVec 32 := 0
  name : String := ""
  host : String := ""
  port : BitVec 16 := 0
  deriving DecidableEq, Repr

/-- `Config`; durations in milliseconds. -/
structure Config where
  heartbeatInterval : Int := 1000
  heartbeatTimeout : Int := 3000
  maxMissedHeartbeats : Int := 3
  reconnectBaseDelay : Int := 500
  reconnectMaxDelay : Int := 30000
  maxReconnectAttempts : Int := -1
  epollMaxEvents : Int := 256
  tickInterval : Int := 50
  tcpNodelay : Bool := true
  edgeTriggered : Bool := true
  feeds : List FeedEndpoint := []
  logLevel : String := "info"
  helpRequested : Bool := false
  deriving DecidableEq, Repr

/-- `duration_cast<nanoseconds>` of a millisecond count. -/
def toNs (ms : Int) : Int := ms * 1000000

theorem toNs_nonneg {ms : Int} (h : 0 ≤ ms) : 0 ≤ toNs ms :=
  Int.mul_nonneg h (by decide)

/-- `heartbeat_timeout` in nanoseconds. -/
def Config.timeoutNs (cfg : Config) : Int := toNs cfg.heartbeatTimeout

/-- `heartbeat_interval` in nanoseconds. -/
def Config.intervalNs (cfg : Config) : Int := toNs cfg.heartbeatInterval

def kEwmaAlpha : Float := 0.2

structure ConnectionStats where
  heartbeatsSent : Nat := 0
  heartbeatsAcked : Nat := 0
  missed : Nat := 0
  reconnects : Nat := 0
  lastRttNs : Int := 0
  minRttNs : Int := 2 ^ 63 - 1
  maxRttNs : Int := 0
  ewmaRttNs : Float := 0.0
  rttSamplesNs : RingBuffer Int 256 := RingBuffer.fresh 0 (by decide)
  connectedSinceNs : Int := 0

namespace ConnectionStats

def recordPingSent (s : ConnectionStats) : ConnectionStats :=
  { s with heartbeatsSent := s.heartbeatsSent + 1 }

def recordPongReceived (s : ConnectionStats) (rttNs : Int) : ConnectionStats :=
  { s with
    heartbeatsAcked := s.heartbeatsAcked + 1
    lastRttNs := rttNs
    minRttNs := min s.minRttNs rttNs
    maxRttNs := max s.maxRttNs rttNs
    ewmaRttNs :=
      if s.heartbeatsAcked + 1 = 1 then Float.ofInt rttNs
      else kEwmaAlpha * Float.ofInt rttNs + (1.0 - kEwmaAlpha) * s.ewmaRttNs
    rttSamplesNs := s.rttSamplesNs.push rttNs }

def recordMissed (s : ConnectionStats) : ConnectionStats :=
  { s with missed := s.missed + 1 }

def recordReconnect (s : ConnectionStats) : ConnectionStats :=
  { s with reconnects := s.reconnects + 1 }

end ConnectionStats

end Vigil
