import ModelNumber.Library.Entry

/-
  This file defines the configuration of the RQ series of
  packaged rooftop units.

  Key definitions include:
    * `Library.rq`
-/

namespace ModelNumber

namespace Library

------------------------------------------------------------
-- Categories
------------------------------------------------------------

/- The categories of the RQ series. -/
def rqCategories : List Category :=
  [Category.ofCodes "GEN" "Series and Generation"
      "GEN" "model"
        [("RQ", "RQ Series packaged rooftop unit")],
    Category.ofCodes "SIZE" "Unit Size"
      "SIZE" "model"
        [("002", "2 ton nominal cooling capacity"),
         ("003", "3 ton nominal cooling capacity"),
         ("004", "4 ton nominal cooling capacity"),
         ("005", "5 ton nominal cooling capacity"),
         ("006", "6 ton nominal cooling capacity")],
    Category.ofCodes "VOLTAGE" "Voltage"
      "VLT" "model"
        [("1", "230V/1Ph/60Hz"),
         ("2", "230V/3Ph/60Hz"),
         ("3", "460V/3Ph/60Hz"),
         ("8", "208V/3Ph/60Hz"),
         ("9", "208V/1Ph/60Hz")],
    Category.ofCodes "INTERPROT" "Interior Protection"
      "INT" "model"
        [("0", "Standard galvanized interior"),
         ("1", "Interior corrosion protection coating")],
    Category.ofCodes "A1" "Compressor Style"
      "A1" "cooling"
        [("0", "No compressors"),
         ("E", "R-454B scroll compressor"),
         ("J", "R-454B two-step scroll compressor")],
    Category.ofCodes "B1" "Heating Type"
      "B1" "heating"
        [("0", "No heating"),
         ("E", "Electric heat"),
         ("G", "Natural gas heat"),
         ("P", "Propane (LP) heat")],
    Category.ofCodes "B2" "Heat Exchanger Configuration"
      "B2" "heating"
        [("0", "Standard"),
         ("1", "Stainless steel heat exchanger"),
         ("2", "High altitude")],
    Category.ofCodes "B3" "Heating Capacity"
      "B3" "heating"
        [("0", "No heating capacity"),
         ("1", "Heating capacity 1"),
         ("2", "Heating capacity 2"),
         ("3", "Heating capacity 3"),
         ("4", "Heating capacity 4")],
    Category.ofCodes "C1" "Supply Fan"
      "C1" "features"
        [("A", "Direct drive ECM supply fan"),
         ("B", "Direct drive ECM supply fan, high static")],
    Category.ofCodes "D1" "Filtration"
      "D1" "features"
        [("0", "2 in pleated MERV 8 filters"),
         ("A", "2 in pleated MERV 13 filters")],
    Category.ofCodes "F1" "Outside Air Options"
      "F1" "features"
        [("0", "No outside air"),
         ("1", "Economizer"),
         ("2", "Economizer with barometric relief")]]

------------------------------------------------------------
-- Positions and grammar
------------------------------------------------------------

/- Where the categories of the RQ series stand. -/
def rqPositions : PositionMap :=
  PositionMap.ofBounds
    [("GEN", 0, 2), ("SIZE", 3, 6), ("VOLTAGE", 7, 8),
     ("INTERPROT", 9, 10), ("A1", 11, 12), ("B1", 13, 14),
     ("B2", 15, 16), ("B3", 17, 18), ("C1", 19, 20),
     ("D1", 21, 22), ("F1", 23, 24)]

/- The segments of the RQ series. -/
def rqGrammar : Grammar :=
  Grammar.ofNames
    ["GEN", "SIZE", "VOLTAGE", "INTERPROT", "A1", "B1", "B2",
     "B3"]
    ["C1", "D1", "F1"]

------------------------------------------------------------
-- Rules
------------------------------------------------------------

/- The dependency rules of the RQ series. -/
def rqRules : List Rule :=
  [ { kind := .restriction
      condition := .ofCodes "B1" ["0"]
      secondCondition := none
      affects := "B2"
      validCodes := .ofTexts ["0"]
      message :=
        "Heat exchanger options require a heating type"
      hint :=
        "Set B2 to 0 (Standard) or select a heating type in B1" },
    { kind := .restriction
      condition := .ofCodes "B1" ["0"]
      secondCondition := none
      affects := "B3"
      validCodes := .ofTexts ["0"]
      message :=
        "No heating is selected, so heating capacity must be 0"
      hint := "Set B3 to 0" },
    { kind := .restriction
      condition := .ofCodes "B1" ["E"]
      secondCondition := none
      affects := "B2"
      validCodes := .ofTexts ["0"]
      message :=
        "Heat exchanger configurations apply to gas and propane heat only"
      hint := "Set B2 to 0 for electric heat" },
    { kind := .restriction
      condition := .ofCodes "B1" ["E", "G", "P"]
      secondCondition := none
      affects := "B3"
      validCodes := .ofTexts ["1", "2", "3", "4"]
      message :=
        "Electric and gas heat require a heating capacity"
      hint :=
        "Choose a heating capacity between 1 and 4 in B3" },
    { kind := .restriction
      condition := .ofCodes "B1" ["E"]
      secondCondition := some (.ofCodes "VOLTAGE" ["1", "9"])
      affects := "B3"
      validCodes := .ofTexts ["1", "2"]
      message :=
        "Single phase power limits electric heat to 10 kW"
      hint :=
        "Choose heating capacity 1-2 or a three phase voltage" },
    { kind := .informational
      condition := .ofCodes "A1" ["0"]
      secondCondition := none
      affects := "B1"
      validCodes := .ofTexts []
      message :=
        "Units without compressors are heating and ventilation only"
      hint :=
        "Select a compressor in A1 for mechanical cooling" },
    { kind := .restriction
      condition := .ofCodes "F1" ["2"]
      secondCondition := none
      affects := "D1"
      validCodes := .ofTexts ["A"]
      message :=
        "Barometric relief requires MERV 13 filtration"
      hint := "Set D1 to A" }]

------------------------------------------------------------
-- Navigation
------------------------------------------------------------

/- The reference list of the RQ series. -/
def rqNavigation : List NavigationEntry :=
  [.heading "Model",
    .item "GEN" "Series and Generation",
    .item "SIZE" "Unit Size",
    .item "VOLTAGE" "Voltage",
    .item "INTERPROT" "Interior Protection",
    .heading "A: Cooling",
    .item "A1" "Compressor Style",
    .heading "B: Heating",
    .item "B1" "Heating Type",
    .item "B2" "Heat Exchanger Configuration",
    .item "B3" "Heating Capacity",
    .heading "Feature String",
    .item "C1" "Supply Fan",
    .item "D1" "Filtration",
    .item "F1" "Outside Air Options"]

------------------------------------------------------------
-- Enhancement tables
------------------------------------------------------------

/- The nominal airflow of each unit size. -/
def rqAirflow : Json :=
  table
    [("002", [("cfm", 800)]), ("003", [("cfm", 1200)]),
     ("004", [("cfm", 1600)]), ("005", [("cfm", 2000)]),
     ("006", [("cfm", 2400)])]

/- The rated voltage of each supply. -/
def rqVoltages : Json :=
  table
    [("1", [("volts", 230)]), ("2", [("volts", 230)]),
     ("3", [("volts", 460)]), ("8", [("volts", 208)]),
     ("9", [("volts", 208)])]

/- The power of each electric heat code. -/
def rqElectricHeat : Json :=
  table
    [("1", [("kw", 5)]), ("2", [("kw", 10)]),
     ("3", [("kw", 15)]), ("4", [("kw", 20)])]

/- The input and output of each gas heat code. -/
def rqGasHeat : Json :=
  table
    [("1", [("input", 30), ("output", 24)]),
     ("2", [("input", 45), ("output", 36)]),
     ("3", [("input", 60), ("output", 48)]),
     ("4", [("input", 90), ("output", 72)])]

/- All enhancement tables of the RQ series. -/
def rqTables : Json :=
  .obj
    [("nominal_airflow", rqAirflow),
      ("voltage_rating", rqVoltages),
      ("electric_heat_kw", rqElectricHeat),
      ("gas_heat_mbh", rqGasHeat)]

------------------------------------------------------------
-- Configuration
------------------------------------------------------------

/- The configuration of the RQ series. -/
def rq : Configuration where
  key := "rq"
  title := "RQ Series Packaged Rooftop Unit (2-6 tons)"
  catalog :=
    { categories := rqCategories
      distinct := by decide +kernel }
  positions := rqPositions
  grammar := rqGrammar
  referenceString := "RQ-004-8-0-E-G-0-2:A-0-1"
  rules := rqRules
  navigation := rqNavigation
  enhancers := ["airflow", "heating_capacity"]
  tables := rqTables

end Library

end ModelNumber
