import ModelNumber.Enhancement.Basic

/-
  This file defines the enhancers that model types can name:
  nominal airflow by unit size, and heating capacity by heat
  type, heat code and supply voltage.

  Key definitions include:
    * `HeatClass`
    * `HeatClass.ofCode`
    * `Enhancer.airflow`
    * `Enhancer.heatingCapacity`
    * `Enhancer.builtin`
    * `Enhancer.named`
-/

namespace ModelNumber

------------------------------------------------------------
-- Heat classes
------------------------------------------------------------

/- How a unit is heated. -/
inductive HeatClass where
| electric
| gas
| unheated
| other
deriving DecidableEq, Repr

namespace HeatClass

/- The name of a heat class. -/
def name : HeatClass → String
| .electric => "electric"
| .gas => "gas"
| .unheated => "none"
| .other => "other"

/- The heat class that a code stands for. -/
def ofCode (code : Scalar) : HeatClass :=
  if code == .str "E" || code == .str "H" then
    .electric
  else if code == .str "G" || code == .str "P" then
    .gas
  else if code == .str "0" then
    .unheated
  else
    .other

end HeatClass

------------------------------------------------------------
-- Tables
------------------------------------------------------------

namespace Enhancer

/-
  The record of a code in a table. A missing table is an empty
  one, and an absent record is none.
-/
def record?
    (tables : Json)
    (table code : String) : Except Defect (Option Json) := do
  let rows ← tables.optionalField table (.obj [])
  match ← rows.optionalField code .null with
  | .null => return none
  | record => return some record

------------------------------------------------------------
-- Airflow
------------------------------------------------------------

/- A number with its thousands in groups. -/
def grouped : Json → Except Defect String
| .bool b => .ok (if b then "1" else "0")
| .int n => .ok (Number.writeGrouped n)
| .float x => .ok (Scalar.messageLayout.writeGrouped x)
| .str _ => .error .invalid
| _ => .error .mistyped

/- The nominal airflow of a unit size. -/
def deriveAirflow
    (attributes : OrderedMap Scalar Attribute)
    (tables : Json) : Except Defect (Option String) := do
  match attributes.get? "SIZE" with
  | none => return none
  | some size =>
      match ← record? tables "nominal_airflow" size.code with
      | none => return none
      | some record =>
          let cfm ← grouped (← record.required "cfm")
          return some ("[" ++ cfm ++ " cfm nominal airflow]")

/- Appends the nominal airflow to the unit size. -/
def airflow : Enhancer where
  name := "airflow"
  reads := ["SIZE"]
  writes := "SIZE"
  tables := ["nominal_airflow"]
  derive := deriveAirflow

------------------------------------------------------------
-- Heating capacity
------------------------------------------------------------

/- Electric heaters give less at this supply voltage. -/
def deratedVoltage : Scalar :=
  .int 208

/-
  The share that remains at the derated voltage: the square of
  208 / 240, rounded.
-/
def derateFactor : Float :=
  0.75

/- Power in kilowatts, with one decimal place. -/
def kilowatts (kw : Float) : String :=
  Number.oneDecimal Scalar.messageLayout kw ++ " kW"

/- The rated voltage of a supply, if both are known. -/
def ratedVoltage
    (voltage : Option Attribute)
    (tables : Json) : Except Defect (Option Json) := do
  match voltage with
  | none => return none
  | some voltage =>
      match ← record? tables "voltage_rating" voltage.code with
      | none => return none
      | some record => return some (← record.required "volts")

/- The power of electric heat, at the supply voltage if known. -/
def deriveElectric
    (capacity : Attribute)
    (voltage : Option Attribute)
    (tables : Json) : Except Defect (Option String) := do
  match ← record? tables "electric_heat_kw" capacity.code with
  | none => return none
  | some record =>
      let kw ← (← record.required "kw").toFloat
      match ← ratedVoltage voltage tables with
      | none => return some ("[" ++ kilowatts kw ++ " rated]")
      | some volts =>
          let derated := (← volts.key) == deratedVoltage
          let kw := if derated then kw * derateFactor else kw
          return some
            ("[" ++ kilowatts kw ++ " @ " ++ volts.shown ++ "V]")

/- The input and output of gas heat. -/
def deriveGas
    (capacity : Attribute)
    (tables : Json) : Except Defect (Option String) := do
  match ← record? tables "gas_heat_mbh" capacity.code with
  | none => return none
  | some record =>
      let input ← record.required "input"
      let output ← record.required "output"
      return some
        ("[" ++ input.shown ++ " MBH input / "
          ++ output.shown ++ " MBH output]")

/- The heating capacity of a unit with electric or gas heat. -/
def deriveHeatingCapacity
    (attributes : OrderedMap Scalar Attribute)
    (tables : Json) : Except Defect (Option String) := do
  match attributes.get? "B1", attributes.get? "B3" with
  | some heat, some capacity =>
      match HeatClass.ofCode (.str heat.code) with
      | .electric =>
          deriveElectric capacity
            (attributes.get? "VOLTAGE") tables
      | .gas => deriveGas capacity tables
      | _ => return none
  | _, _ => return none

/- Appends the heating capacity to the heat code. -/
def heatingCapacity : Enhancer where
  name := "heating_capacity"
  reads := ["B1", "B3", "VOLTAGE"]
  writes := "B3"
  tables := ["electric_heat_kw", "gas_heat_mbh", "voltage_rating"]
  derive := deriveHeatingCapacity

------------------------------------------------------------
-- Names
------------------------------------------------------------

/- All enhancers that have a name. -/
def builtin : List Enhancer :=
  [airflow, heatingCapacity]

/- The enhancer with a name. -/
def find? (name : Scalar) : Option Enhancer :=
  builtin.find? fun e => Scalar.str e.name == name

/-
  The enhancers with the given names, in that order. Names of
  no enhancer are passed over.
-/
def named (names : List Json) : Except Defect (List Enhancer) := do
  let keys ← names.mapM Json.key
  return keys.filterMap find?

end Enhancer

end ModelNumber
