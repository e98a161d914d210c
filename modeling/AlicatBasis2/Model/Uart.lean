import AlicatBasis2.Model.Modbus

/-! # The serial transport and a driver session

`UartInterface` is a base for adapters that live outside the driver, so the transport is a parameter: a
state of the adapter's own and the three operations of the interface. The interface promises one thing
of `read`, that it writes at most `max` bytes, and that promise is a field. A session is a driver object
with its UART, and records the UART calls made so far. -/

namespace AlicatBasis2

/-- An adapter of `UartInterface` with states `σ`. -/
structure Uart (σ : Type) where
  /-- `write(data, length)`. -/
  write : List U8 → σ → σ
  /-- `read(out, max, timeout_ms)`: the bytes written into `out`. -/
  read : ℕ → U32 → σ → List U8 × σ
  /-- `flush_rx()`. -/
  flushRx : σ → σ
  /-- At most `max` bytes are written into `out`. -/
  length_read_le : ∀ max timeoutMs bus, (read max timeoutMs bus).1.length ≤ max

/-- One call of the driver into its UART, with what it passed and what came back. -/
inductive UartEvent
  | flushRx
  | write (data : List U8)
  | read (max : ℕ) (timeoutMs : U32) (got : List U8)
  deriving DecidableEq, Repr

/-- The data members of a `Driver`, less the reference to its UART. -/
structure Driver where
  /-- `address_`. -/
  address : U8
  /-- `timeout_ms_`. -/
  timeoutMs : U16
  deriving DecidableEq, Repr

/-- A driver object and its UART. -/
structure Session (σ : Type) where
  /-- The data members of the driver. -/
  driver : Driver
  /-- The state of the UART. -/
  bus : σ
  /-- The UART calls so far, oldest first. -/
  trace : List UartEvent
  deriving DecidableEq, Repr

namespace Session

variable {σ : Type}

/-- `uart_.flush_rx()`. -/
def flushRx (uart : Uart σ) (s : Session σ) : Session σ :=
  { s with bus := uart.flushRx s.bus, trace := s.trace ++ [.flushRx] }

/-- `uart_.write(buf, length)`. -/
def write (uart : Uart σ) (buf : List U8) (length : ℕ) (s : Session σ) : Option (Session σ) :=
  if length ≤ buf.length then
    some { s with
      bus := uart.write (buf.take length) s.bus
      trace := s.trace ++ [.write (buf.take length)] }
  else none

/-- `uart_.read(buf, max, timeout_ms)`: the number of bytes received and the buffer after the call. -/
def read (uart : Uart σ) (buf : List U8) (max : ℕ) (timeoutMs : U16) (s : Session σ) :
    Option (ℕ × List U8 × Session σ) :=
  if max ≤ buf.length then
    let (got, bus) := uart.read max (timeoutMs.setWidth 32) s.bus
    some (got.length, got ++ buf.drop got.length,
      { s with bus, trace := s.trace ++ [.read max (timeoutMs.setWidth 32) got] })
  else none

/-- `address_ = addr`. -/
def setAddress (addr : U8) (s : Session σ) : Session σ :=
  { s with driver := { s.driver with address := addr } }

/-- `timeout_ms_ = ms`. -/
def setTimeoutMs (ms : U16) (s : Session σ) : Session σ :=
  { s with driver := { s.driver with timeoutMs := ms } }

/-- A flush is no matter of the driver's fields. -/
@[simp] theorem flushRx_driver (uart : Uart σ) (s : Session σ) :
    (s.flushRx uart).driver = s.driver := rfl

/-- `address_` is what was assigned. -/
@[simp] theorem setAddress_address (addr : U8) (s : Session σ) :
    (s.setAddress addr).driver.address = addr := rfl

/-- `timeout_ms_` stays. -/
@[simp] theorem setAddress_timeoutMs (addr : U8) (s : Session σ) :
    (s.setAddress addr).driver.timeoutMs = s.driver.timeoutMs := rfl

/-- Nothing goes out. -/
@[simp] theorem setAddress_bus (addr : U8) (s : Session σ) : (s.setAddress addr).bus = s.bus := rfl

/-- No UART call is made. -/
@[simp] theorem setAddress_trace (addr : U8) (s : Session σ) :
    (s.setAddress addr).trace = s.trace := rfl

/-- `address_` stays. -/
@[simp] theorem setTimeoutMs_address (ms : U16) (s : Session σ) :
    (s.setTimeoutMs ms).driver.address = s.driver.address := rfl

/-- `timeout_ms_` is what was assigned. -/
@[simp] theorem setTimeoutMs_timeoutMs (ms : U16) (s : Session σ) :
    (s.setTimeoutMs ms).driver.timeoutMs = ms := rfl

/-- Nothing goes out. -/
@[simp] theorem setTimeoutMs_bus (ms : U16) (s : Session σ) :
    (s.setTimeoutMs ms).bus = s.bus := rfl

/-- No UART call is made. -/
@[simp] theorem setTimeoutMs_trace (ms : U16) (s : Session σ) :
    (s.setTimeoutMs ms).trace = s.trace := rfl

end Session

end AlicatBasis2
