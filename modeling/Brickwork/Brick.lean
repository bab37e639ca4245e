import Brickwork.Board
import Brickwork.Identifier

/-!
# Bricks

A brick is a named part of the hardware: a sensor, an actuator, a serial line, a display or a
buzzer. Its category says what it can be used for and which pool its pin comes from.
-/

namespace Brickwork

/-- What sort of part a brick is. -/
inductive Category where
  | digitalSensor
  | analogSensor
  | temperatureSensor
  | digitalActuator
  | analogActuator
  | serialLine (baud : UInt32)
  | lcdDisplay
  | buzzer
deriving DecidableEq, Inhabited

namespace Category

/-- The speed of a serial line that names none. -/
def defaultBaud : UInt32 := 9600

/-- The name of a category in messages and comments. -/
def name : Category → String
  | digitalSensor => "DigitalSensor"
  | analogSensor => "AnalogSensor"
  | temperatureSensor => "TemperatureSensor"
  | digitalActuator => "DigitalActuator"
  | analogActuator => "AnalogActuator"
  | serialLine _ => "SerialLine"
  | lcdDisplay => "LCDDisplay"
  | buzzer => "Buzzer"

/-- The name of a category in documents. -/
def tag : Category → String
  | digitalSensor => "digital_sensor"
  | analogSensor => "analog_sensor"
  | temperatureSensor => "temperature_sensor"
  | digitalActuator => "digital_actuator"
  | analogActuator => "analog_actuator"
  | serialLine _ => "serial_line"
  | lcdDisplay => "lcd_display"
  | buzzer => "buzzer"

/-- All categories, the serial line at its default speed. -/
def all : List Category :=
  [digitalSensor, analogSensor, temperatureSensor, digitalActuator, analogActuator,
   serialLine defaultBaud, lcdDisplay, buzzer]

/-- The category of a document's tag, a serial line at the given speed. -/
def ofTag? (tag : String) (baud : UInt32) : Option Category :=
  (all.find? fun category => category.tag == tag).map fun
    | serialLine _ => serialLine baud
    | category => category

/-- The pool that a brick's pin comes from; parts with fixed wiring have none. -/
def pool : Category → Option Pool
  | digitalSensor | digitalActuator | buzzer => some .digital
  | analogActuator => some .pwm
  | analogSensor | temperatureSensor => some .analog
  | serialLine _ | lcdDisplay => none

/-- Whether this is a serial line. -/
def isSerialLine : Category → Bool
  | serialLine _ => true
  | _ => false

end Category

/-- A named part, with the pin that was asked for, if any. -/
structure Brick where
  name : Identifier
  pin : Option Pin := none
  category : Category
deriving DecidableEq, Inhabited

end Brickwork
