import ModelNumber.Library.Entry

/-
  This file defines the configuration of the RN series of
  packaged rooftop units.

  Key definitions include:
    * `Library.rn`
-/

namespace ModelNumber

namespace Library

------------------------------------------------------------
-- Categories
------------------------------------------------------------

/- The categories of the RN series. -/
def rnCategories : List Category :=
  [Category.ofCodes "GEN" "Series and Generation"
      "GEN" "model"
        [("RN", "RN Series packaged rooftop unit")],
    Category.ofCodes "SIZE" "Unit Size"
      "SIZE" "model"
        [("006", "6 ton nominal cooling capacity"),
         ("007", "7 ton nominal cooling capacity"),
         ("008", "8 ton nominal cooling capacity"),
         ("010", "10 ton nominal cooling capacity"),
         ("013", "13 ton nominal cooling capacity"),
         ("015", "15 ton nominal cooling capacity"),
         ("018", "18 ton nominal cooling capacity"),
         ("020", "20 ton nominal cooling capacity"),
         ("025", "25 ton nominal cooling capacity"),
         ("030", "30 ton nominal cooling capacity"),
         ("040", "40 ton nominal cooling capacity"),
         ("050", "50 ton nominal cooling capacity")],
    Category.ofCodes "VOLTAGE" "Voltage"
      "VLT" "model"
        [("1", "230V/1Ph/60Hz"),
         ("2", "230V/3Ph/60Hz"),
         ("3", "460V/3Ph/60Hz"),
         ("4", "575V/3Ph/60Hz"),
         ("8", "208V/3Ph/60Hz"),
         ("9", "208V/1Ph/60Hz")],
    Category.ofCodes "INTERPROT" "Interior Protection"
      "INT" "model"
        [("0", "Standard galvanized interior"),
         ("1", "Interior corrosion protection coating"),
         ("2", "Stainless steel drain pan and interior corrosion protection")],
    Category.ofCodes "A1" "Compressor Style"
      "A1" "cooling"
        [("0", "No compressors"),
         ("E", "R-454B scroll compressors"),
         ("G", "R-454B variable capacity scroll compressor"),
         ("J", "R-454B two-step scroll compressors")],
    Category.ofCodes "A2" "Condenser Style"
      "A2" "cooling"
        [("0", "No condenser"),
         ("A", "Air-cooled condenser"),
         ("B", "Air-cooled condenser with variable speed condenser fans"),
         ("W", "Water-cooled condenser")],
    Category.ofCodes "A3" "Coil Coating"
      "A3" "cooling"
        [("0", "Standard coils"),
         ("1", "Polymer e-coated evaporator coil"),
         ("2", "Polymer e-coated condenser coil"),
         ("3", "Polymer e-coated evaporator and condenser coils")],
    Category.ofCodes "B1" "Heating Type"
      "B1" "heating"
        [("0", "No heating"),
         ("E", "Electric heat"),
         ("H", "Electric heat with SCR modulation"),
         ("G", "Natural gas heat"),
         ("P", "Propane (LP) heat"),
         ("W", "Hot water coil"),
         ("S", "Steam coil")],
    Category.ofCodes "B2" "Heat Exchanger Configuration"
      "B2" "heating"
        [("0", "Standard"),
         ("1", "Stainless steel heat exchanger"),
         ("2", "High altitude"),
         ("3", "Stainless steel heat exchanger, high altitude"),
         ("4", "Modulating gas valve")],
    Category.ofCodes "B3" "Heating Capacity"
      "B3" "heating"
        [("0", "No heating capacity"),
         ("1", "Heating capacity 1"),
         ("2", "Heating capacity 2"),
         ("3", "Heating capacity 3"),
         ("4", "Heating capacity 4"),
         ("5", "Heating capacity 5"),
         ("6", "Heating capacity 6"),
         ("7", "Heating capacity 7"),
         ("8", "Heating capacity 8")],
    Category.ofCodes "C1" "Supply Fan"
      "C1" "features"
        [("A", "Direct drive backward curved plenum fan"),
         ("B", "Belt drive forward curved fan"),
         ("C", "Direct drive fan array")],
    Category.ofCodes "C2" "Supply Fan Motor"
      "C2" "features"
        [("1", "1 hp premium efficiency motor"),
         ("2", "2 hp premium efficiency motor"),
         ("3", "3 hp premium efficiency motor"),
         ("5", "5 hp premium efficiency motor"),
         ("7", "7.5 hp premium efficiency motor"),
         ("A", "10 hp premium efficiency motor")],
    Category.ofCodes "D1" "Filtration"
      "D1" "features"
        [("0", "2 in pleated MERV 8 filters"),
         ("A", "4 in pleated MERV 8 filters"),
         ("B", "4 in pleated MERV 13 filters"),
         ("C", "4 in MERV 14 filters with 2 in pre-filters")],
    Category.ofCodes "E1" "Controls"
      "E1" "features"
        [("0", "Constant volume, thermostat control"),
         ("D", "Factory installed DDC controller"),
         ("B", "Factory installed BACnet controller"),
         ("V", "VAV controls with supply air temperature reset")],
    Category.ofCodes "F1" "Outside Air Options"
      "F1" "features"
        [("0", "No outside air"),
         ("1", "Economizer"),
         ("2", "Economizer with power exhaust"),
         ("3", "Energy recovery wheel")]]

------------------------------------------------------------
-- Positions and grammar
------------------------------------------------------------

/- Where the categories of the RN series stand. -/
def rnPositions : PositionMap :=
  PositionMap.ofBounds
    [("GEN", 0, 2), ("SIZE", 3, 6), ("VOLTAGE", 7, 8),
     ("INTERPROT", 9, 10), ("A1", 11, 12), ("A2", 13, 14),
     ("A3", 15, 16), ("B1", 17, 18), ("B2", 19, 20),
     ("B3", 21, 22), ("C1", 23, 24), ("C2", 25, 26),
     ("D1", 27, 28), ("E1", 29, 30), ("F1", 31, 32)]

/- The segments of the RN series. -/
def rnGrammar : Grammar :=
  Grammar.ofNames
    ["GEN", "SIZE", "VOLTAGE", "INTERPROT", "A1", "A2", "A3",
     "B1", "B2", "B3"]
    ["C1", "C2", "D1", "E1", "F1"]

------------------------------------------------------------
-- Rules
------------------------------------------------------------

/- The dependency rules of the RN series. -/
def rnRules : List Rule :=
  [ { kind := .restriction
      condition := .ofCodes "B1" ["0"]
      secondCondition := none
      affects := "B2"
      validCodes := .ofTexts ["0"]
      message :=
        "Heat exchanger options require a heating type"
      hint :=
        "Set B2 to 0 (Standard) or select a heating type in B1" },
    { kind := .restriction
      condition := .ofCodes "B1" ["0"]
      secondCondition := none
      affects := "B3"
      validCodes := .ofTexts ["0"]
      message :=
        "No heating is selected, so heating capacity must be 0"
      hint := "Set B3 to 0" },
    { kind := .restriction
      condition := .ofCodes "B1" ["E", "H", "W", "S"]
      secondCondition := none
      affects := "B2"
      validCodes := .ofTexts ["0"]
      message :=
        "Heat exchanger configurations apply to gas and propane heat only"
      hint :=
        "Set B2 to 0 for electric, hot water or steam heat" },
    { kind := .restriction
      condition := .ofCodes "B1" ["E", "H", "G", "P"]
      secondCondition := none
      affects := "B3"
      validCodes := .ofTexts ["1", "2", "3", "4", "5", "6", "7", "8"]
      message :=
        "Electric and gas heat require a heating capacity"
      hint :=
        "Choose a heating capacity between 1 and 8 in B3" },
    { kind := .restriction
      condition := .ofCodes "B1" ["E", "H"]
      secondCondition := some (.ofCodes "VOLTAGE" ["1", "9"])
      affects := "B3"
      validCodes := .ofTexts ["1", "2", "3"]
      message :=
        "Single phase power limits electric heat to 27 kW"
      hint :=
        "Choose heating capacity 1-3 or a three phase voltage" },
    { kind := .restriction
      condition := .ofCodes "B1" ["G", "P"]
      secondCondition := some (
        .ofCodes "SIZE" ["006", "007", "008", "010"])
      affects := "B3"
      validCodes := .ofTexts ["1", "2", "3", "4"]
      message :=
        "Gas heat capacity exceeds the cabinet limit for units up to 10 tons"
      hint :=
        "Choose heating capacity 1-4 or a larger unit size" },
    { kind := .restriction
      condition := .ofCodes "B1" ["H"]
      secondCondition := none
      affects := "E1"
      validCodes := .ofTexts ["D", "B", "V"]
      message :=
        "SCR modulated electric heat requires a factory controller"
      hint := "Choose DDC, BACnet or VAV controls in E1" },
    { kind := .informational
      condition := .ofCodes "B1" ["W", "S"]
      secondCondition := none
      affects := "B3"
      validCodes := .ofTexts []
      message :=
        "Hot water and steam coil capacity depends on entering fluid conditions"
      hint :=
        "B3 identifies the coil row count; size the coil for the design conditions" },
    { kind := .restriction
      condition := .ofCodes "A1" ["0"]
      secondCondition := none
      affects := "A2"
      validCodes := .ofTexts ["0"]
      message :=
        "Units without compressors do not include a condenser"
      hint := "Set A2 to 0" },
    { kind := .restriction
      condition := .ofCodes "A1" ["E", "G", "J"]
      secondCondition := none
      affects := "A2"
      validCodes := .ofTexts ["A", "B", "W"]
      message :=
        "Units with compressors require a condenser"
      hint :=
        "Choose an air-cooled or water-cooled condenser in A2" },
    { kind := .enablement
      condition := .ofCodes "A1" ["G"]
      secondCondition := none
      affects := "E1"
      validCodes := .ofTexts ["V"]
      message :=
        "Variable capacity compressor makes VAV controls available"
      hint :=
        "Select E1 = V for supply air temperature reset" },
    { kind := .restriction
      condition := .ofCodes "E1" ["V"]
      secondCondition := none
      affects := "A1"
      validCodes := .ofTexts ["G"]
      message :=
        "VAV controls require a variable capacity compressor"
      hint :=
        "Set A1 to G or choose different controls in E1" },
    { kind := .restriction
      condition := .ofCodes "F1" ["2", "3"]
      secondCondition := none
      affects := "D1"
      validCodes := .ofTexts ["A", "B", "C"]
      message :=
        "Power exhaust and energy recovery require 4 in filter racks"
      hint := "Choose a 4 in filter option in D1" },
    { kind := .restriction
      condition := .ofCodes "C1" ["C"]
      secondCondition := none
      affects := "C2"
      validCodes := .ofTexts ["1", "2", "3"]
      message :=
        "Fan arrays are limited to 3 hp motors"
      hint := "Choose a motor of 3 hp or less in C2" }]

------------------------------------------------------------
-- Navigation
------------------------------------------------------------

/- The reference list of the RN series. -/
def rnNavigation : List NavigationEntry :=
  [.heading "Model",
    .item "GEN" "Series and Generation",
    .item "SIZE" "Unit Size",
    .item "VOLTAGE" "Voltage",
    .item "INTERPROT" "Interior Protection",
    .heading "A: Cooling",
    .item "A1" "Compressor Style",
    .item "A2" "Condenser Style",
    .item "A3" "Coil Coating",
    .heading "B: Heating",
    .item "B1" "Heating Type",
    .item "B2" "Heat Exchanger Configuration",
    .item "B3" "Heating Capacity",
    .heading "Feature String",
    .item "C1" "Supply Fan",
    .item "C2" "Supply Fan Motor",
    .item "D1" "Filtration",
    .item "E1" "Controls",
    .item "F1" "Outside Air Options"]

------------------------------------------------------------
-- Enhancement tables
------------------------------------------------------------

/- The nominal airflow of each unit size. -/
def rnAirflow : Json :=
  table
    [("006", [("cfm", 2400)]), ("007", [("cfm", 2800)]),
     ("008", [("cfm", 3200)]), ("010", [("cfm", 4000)]),
     ("013", [("cfm", 5200)]), ("015", [("cfm", 6000)]),
     ("018", [("cfm", 7200)]), ("020", [("cfm", 8000)]),
     ("025", [("cfm", 10000)]), ("030", [("cfm", 12000)]),
     ("040", [("cfm", 16000)]), ("050", [("cfm", 20000)])]

/- The rated voltage of each supply. -/
def rnVoltages : Json :=
  table
    [("1", [("volts", 230)]), ("2", [("volts", 230)]),
     ("3", [("volts", 460)]), ("4", [("volts", 575)]),
     ("8", [("volts", 208)]), ("9", [("volts", 208)])]

/- The power of each electric heat code. -/
def rnElectricHeat : Json :=
  table
    [("1", [("kw", 9)]), ("2", [("kw", 18)]),
     ("3", [("kw", 27)]), ("4", [("kw", 36)]),
     ("5", [("kw", 45)]), ("6", [("kw", 54)]),
     ("7", [("kw", 72)]), ("8", [("kw", 90)])]

/- The input and output of each gas heat code. -/
def rnGasHeat : Json :=
  table
    [("1", [("input", 45), ("output", 36)]),
     ("2", [("input", 90), ("output", 72)]),
     ("3", [("input", 135), ("output", 108)]),
     ("4", [("input", 180), ("output", 144)]),
     ("5", [("input", 270), ("output", 216)]),
     ("6", [("input", 360), ("output", 288)]),
     ("7", [("input", 450), ("output", 360)]),
     ("8", [("input", 540), ("output", 432)])]

/- All enhancement tables of the RN series. -/
def rnTables : Json :=
  .obj
    [("nominal_airflow", rnAirflow),
      ("voltage_rating", rnVoltages),
      ("electric_heat_kw", rnElectricHeat),
      ("gas_heat_mbh", rnGasHeat)]

------------------------------------------------------------
-- Configuration
------------------------------------------------------------

/- The configuration of the RN series. -/
def rn : Configuration where
  key := "rn"
  title := "RN Series Packaged Rooftop Unit (6-50 tons)"
  catalog :=
    { categories := rnCategories
      distinct := by decide +kernel }
  positions := rnPositions
  grammar := rnGrammar
  referenceString := "RN-025-3-0-E-A-0-G-0-4:A-3-A-0-1"
  rules := rnRules
  navigation := rnNavigation
  enhancers := ["airflow", "heating_capacity"]
  tables := rnTables

end Library

end ModelNumber
