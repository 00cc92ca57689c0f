import Mathlib.Data.Nat.Notation

/-!
# Registers of the OV5693 driver

The register tables, in the order in which they are written, and the addresses
of the registers the driver writes one by one.
-/

namespace SurfaceCameras
namespace Ov5693

/-- `struct cci_reg_sequence`, all of whose registers are bytes here. -/
abbrev RegSequence := List (ℕ × BitVec 8)

/-- `ov5693_global_regs[]`. -/
def globalRegs : RegSequence :=
  [(0x3016, 0xf0), (0x3017, 0xf0), (0x3018, 0xf0), (0x3022, 0x01),
   (0x3028, 0x44), (0x3098, 0x02), (0x3099, 0x19), (0x309a, 0x02),
   (0x309b, 0x01), (0x309c, 0x00), (0x30a0, 0xd2), (0x30a2, 0x01),
   (0x30b2, 0x00), (0x30b3, 0x83), (0x30b4, 0x03), (0x30b5, 0x04),
   (0x30b6, 0x01), (0x3080, 0x01), (0x3104, 0x21), (0x3106, 0x00),
   (0x3406, 0x01), (0x3503, 0x07), (0x350b, 0x40), (0x3601, 0x0a),
   (0x3602, 0x38), (0x3612, 0x80), (0x3620, 0x54), (0x3621, 0xc7),
   (0x3622, 0x0f), (0x3625, 0x10), (0x3630, 0x55), (0x3631, 0xf4),
   (0x3632, 0x00), (0x3633, 0x34), (0x3634, 0x02), (0x364d, 0x0d),
   (0x364f, 0xdd), (0x3660, 0x04), (0x3662, 0x10), (0x3663, 0xf1),
   (0x3665, 0x00), (0x3666, 0x20), (0x3667, 0x00), (0x366a, 0x80),
   (0x3680, 0xe0), (0x3681, 0x00), (0x3700, 0x42), (0x3701, 0x14),
   (0x3702, 0xa0), (0x3703, 0xd8), (0x3704, 0x78), (0x3705, 0x02),
   (0x370a, 0x00), (0x370b, 0x20), (0x370c, 0x0c), (0x370d, 0x11),
   (0x370e, 0x00), (0x370f, 0x40), (0x3710, 0x00), (0x371a, 0x1c),
   (0x371b, 0x05), (0x371c, 0x01), (0x371e, 0xa1), (0x371f, 0x0c),
   (0x3721, 0x00), (0x3724, 0x10), (0x3726, 0x00), (0x372a, 0x01),
   (0x3730, 0x10), (0x3738, 0x22), (0x3739, 0xe5), (0x373a, 0x50),
   (0x373b, 0x02), (0x373c, 0x41), (0x373f, 0x02), (0x3740, 0x42),
   (0x3741, 0x02), (0x3742, 0x18), (0x3743, 0x01), (0x3744, 0x02),
   (0x3747, 0x10), (0x374c, 0x04), (0x3751, 0xf0), (0x3752, 0x00),
   (0x3753, 0x00), (0x3754, 0xc0), (0x3755, 0x00), (0x3756, 0x1a),
   (0x3758, 0x00), (0x3759, 0x0f), (0x376b, 0x44), (0x375c, 0x04),
   (0x3774, 0x10), (0x3776, 0x00), (0x377f, 0x08), (0x3780, 0x22),
   (0x3781, 0x0c), (0x3784, 0x2c), (0x3785, 0x1e), (0x378f, 0xf5),
   (0x3791, 0xb0), (0x3795, 0x00), (0x3796, 0x64), (0x3797, 0x11),
   (0x3798, 0x30), (0x3799, 0x41), (0x379a, 0x07), (0x379b, 0xb0),
   (0x379c, 0x0c), (0x3a04, 0x06), (0x3a05, 0x14), (0x3e07, 0x20),
   (0x4000, 0x08), (0x4001, 0x04), (0x4004, 0x08), (0x4006, 0x20),
   (0x4008, 0x24), (0x4009, 0x10), (0x4058, 0x00), (0x4101, 0xb2),
   (0x4307, 0x31), (0x4511, 0x05), (0x4512, 0x01), (0x481f, 0x30),
   (0x4826, 0x2c), (0x4d02, 0xfd), (0x4d03, 0xf5), (0x4d04, 0x0c),
   (0x4d05, 0xcc), (0x4837, 0x0a), (0x5003, 0x20), (0x5013, 0x00),
   (0x5842, 0x01), (0x5843, 0x2b), (0x5844, 0x01), (0x5845, 0x92),
   (0x5846, 0x01), (0x5847, 0x8f), (0x5848, 0x01), (0x5849, 0x0c),
   (0x5e10, 0x0c), (0x3820, 0x00), (0x3821, 0x1e), (0x5041, 0x14)]

/-- `ov5693_mode_full_regs[]`. -/
def modeFullRegs : RegSequence :=
  [(0x30b3, 0x83), (0x3620, 0x54), (0x3621, 0xc7), (0x3622, 0x0f),
   (0x3708, 0xe2), (0x3709, 0xc3), (0x371f, 0x0c)]

/-- `ov5693_mode_binned_regs[]`. -/
def modeBinnedRegs : RegSequence :=
  [(0x30b3, 0x70), (0x3600, 0xbc), (0x3620, 0x44), (0x3621, 0xb5),
   (0x3622, 0x0c), (0x3708, 0xe6), (0x3709, 0xc7), (0x371f, 0x1f)]

/-! ## Addresses -/

def swResetReg : ℕ := 0x0103
def swStreamReg : ℕ := 0x0100
def regChipId : ℕ := 0x300a
def chipId : ℕ := 0x5690
def exposureCtrlReg : ℕ := 0x3500
def gainCtrlReg : ℕ := 0x350a
def mwbRedGainReg : ℕ := 0x3400
def mwbGreenGainReg : ℕ := 0x3402
def mwbBlueGainReg : ℕ := 0x3404
def cropStartXReg : ℕ := 0x3800
def cropStartYReg : ℕ := 0x3802
def cropEndXReg : ℕ := 0x3804
def cropEndYReg : ℕ := 0x3806
def outputSizeXReg : ℕ := 0x3808
def outputSizeYReg : ℕ := 0x380a
def timingHtsReg : ℕ := 0x380c
def timingVtsReg : ℕ := 0x380e
def offsetStartXReg : ℕ := 0x3810
def offsetStartYReg : ℕ := 0x3812
def subIncXReg : ℕ := 0x3814
def subIncYReg : ℕ := 0x3815
def format1Reg : ℕ := 0x3820
def format2Reg : ℕ := 0x3821
def mipiCtrl00Reg : ℕ := 0x4800
def testPatternReg : ℕ := 0x5e00

/-! ## Bits -/

/-- `OV5693_FORMAT1_FLIP_VERT_ISP_EN`. -/
def format1FlipVertIspEn : BitVec 8 := 0x40

/-- `OV5693_FORMAT1_FLIP_VERT_SENSOR_EN`. -/
def format1FlipVertSensorEn : BitVec 8 := 0x02

/-- `OV5693_FORMAT1_VBIN_EN`. -/
def format1VbinEn : BitVec 8 := 0x01

/-- `OV5693_FORMAT2_FLIP_HORZ_ISP_EN`. -/
def format2FlipHorzIspEn : BitVec 8 := 0x04

/-- `OV5693_FORMAT2_FLIP_HORZ_SENSOR_EN`. -/
def format2FlipHorzSensorEn : BitVec 8 := 0x02

/-- `OV5693_FORMAT2_HBIN_EN`. -/
def format2HbinEn : BitVec 8 := 0x01

end Ov5693
end SurfaceCameras
