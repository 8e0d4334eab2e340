import Mathlib.Init

/-! The registers of the STV0910 demodulator and of the STV6120 tuner, as far as
the Serit controller uses them, and the values it initialises a demodulator with
(`nim_controller.cpp`, `stv0910_init_table.inc`). -/
namespace WhRepeater

def nimDemodAddrA : UInt8 := 0xd0

def nimDemodAddrB : UInt8 := 0xd2

def nimTunerAddr : UInt8 := 0xc0

def stv0910Mid : UInt16 := 0xf100

def stv0910Did : UInt16 := 0xf101

def stv0910P1I2cRpt : UInt16 := 0xf12a

def stv0910P2DmdCfgMd : UInt16 := 0xf214

def stv0910P2DmdIState : UInt16 := 0xf216

def stv0910P2CfrUp1 : UInt16 := 0xf242

def stv0910P2CfrUp0 : UInt16 := 0xf243

def stv0910P2CfrLow1 : UInt16 := 0xf246

def stv0910P2CfrLow0 : UInt16 := 0xf247

def stv0910P2CfrInit1 : UInt16 := 0xf248

def stv0910P2CfrInit0 : UInt16 := 0xf249

def stv0910P2SfrInit1 : UInt16 := 0xf25e

def stv0910P2SfrInit0 : UInt16 := 0xf25f

def stv0910P1DmdCfgMd : UInt16 := 0xf414

def stv0910P1DmdIState : UInt16 := 0xf416

def stv0910P1CfrUp1 : UInt16 := 0xf442

def stv0910P1CfrUp0 : UInt16 := 0xf443

def stv0910P1CfrLow1 : UInt16 := 0xf446

def stv0910P1CfrLow0 : UInt16 := 0xf447

def stv0910P1CfrInit1 : UInt16 := 0xf448

def stv0910P1CfrInit0 : UInt16 := 0xf449

def stv0910P1SfrInit1 : UInt16 := 0xf45e

def stv0910P1SfrInit0 : UInt16 := 0xf45f

def stv0910P1Vth34 : UInt16 := 0xf536

def stv0910TstRes0 : UInt16 := 0xff11

def stv6120Ctrl1 : UInt8 := 0x00

def stv6120Ctrl2 : UInt8 := 0x01

def stv6120Ctrl3 : UInt8 := 0x02

def stv6120Ctrl4 : UInt8 := 0x03

def stv6120Ctrl5 : UInt8 := 0x04

def stv6120Ctrl6 : UInt8 := 0x05

def stv6120Ctrl7 : UInt8 := 0x06

def stv6120Ctrl8 : UInt8 := 0x07

def stv6120Stat1 : UInt8 := 0x08

def stv6120Ctrl9 : UInt8 := 0x09

def stv6120Ctrl10 : UInt8 := 0x0a

def stv6120Ctrl11 : UInt8 := 0x0b

def stv6120Ctrl12 : UInt8 := 0x0c

def stv6120Ctrl13 : UInt8 := 0x0d

def stv6120Ctrl14 : UInt8 := 0x0e

def stv6120Ctrl15 : UInt8 := 0x0f

def stv6120Ctrl16 : UInt8 := 0x10

def stv6120Ctrl17 : UInt8 := 0x11

def stv6120Stat2 : UInt8 := 0x12

def stv6120Ctrl18 : UInt8 := 0x13

def stv6120Ctrl19 : UInt8 := 0x14

def stv6120Ctrl20 : UInt8 := 0x15

def stv6120Ctrl21 : UInt8 := 0x16

def stv6120Ctrl22 : UInt8 := 0x17

def stv6120Ctrl23 : UInt8 := 0x18

def stv0910FieldCp : UInt32 := 0xf1b330f8

def stv0910FieldIdf : UInt32 := 0xf1b30007

def stv0910FieldNDiv : UInt32 := 0xf1b400ff

def stv0910FieldOdf : UInt32 := 0xf1b5003f

def stv0910FieldStandby : UInt32 := 0xf1b67080

def stv0910FieldBypassPllCore : UInt32 := 0xf1b66040

def stv0910FieldPllLock : UInt32 := 0xf1b80001

/-- The values of the repeater register. -/
def repeaterOff : UInt8 := 0x38

def repeaterOn : UInt8 := 0xb8

def stv0910ScanBlindBestGuess : UInt8 := 0x15

def nimTunerXtalKhz : UInt32 := 30000

def nimDemodMclkHz : UInt32 := 135000000

def stv0910PllLockTimeout : Nat := 100

def stv6120CalTimeout : Nat := 200

def stv6120RdivThresholdKhz : UInt32 := 27000

def stv6120PThreshold1Khz : UInt32 := 299000

def stv6120PThreshold2Khz : UInt32 := 596000

def stv6120PThreshold3Khz : UInt32 := 1191000

def stv6120IcpLookup : List (UInt32 × UInt32 × UInt32) :=
  [(2380000, 2472000, 0), (2473000, 2700000, 1), (2701000, 3021000, 2), (3022000, 3387000, 3), (3388000, 3845000, 5),
    (3846000, 4394000, 6), (4395000, 4760000, 7)]

def stv6120Cfhf : List UInt32 :=
  [6796, 5828, 4778, 4118, 3513, 3136, 2794, 2562, 2331, 2169, 2006, 1890, 1771, 1680, 1586, 1514, 1433, 1374, 1310, 1262,
    1208, 1167, 1122, 1087, 1049, 1018, 983, 956, 926, 902, 875, 854]

def stv0910InitRegisters : List (UInt16 × UInt8) := [
  (0xf113, 0x00), (0xf114, 0x00), (0xf11a, 0x05), (0xf11c, 0x00), (0xf120, 0x00), (0xf121, 0x00), (0xf122, 0x00),
  (0xf123, 0x00), (0xf124, 0x00), (0xf125, 0x00), (0xf126, 0x00), (0xf127, 0x00), (0xf129, 0x88), (0xf12a, 0x38),
  (0xf12b, 0x38), (0xf140, 0x82), (0xf141, 0x82), (0xf142, 0x82), (0xf143, 0x82), (0xf144, 0x82), (0xf145, 0x82),
  (0xf146, 0x82), (0xf147, 0x82), (0xf148, 0x82), (0xf149, 0x82), (0xf14a, 0x82), (0xf14b, 0x82), (0xf14c, 0x82),
  (0xf14d, 0x82), (0xf14e, 0x82), (0xf14f, 0x82), (0xf150, 0x82), (0xf151, 0x82), (0xf152, 0x82), (0xf153, 0x82),
  (0xf154, 0x82), (0xf155, 0x82), (0xf156, 0x82), (0xf16a, 0x60), (0xf16b, 0x71), (0xf16c, 0x82), (0xf170, 0x8c),
  (0xf171, 0x45), (0xf172, 0xc9), (0xf173, 0x01), (0xf174, 0x37), (0xf175, 0x08), (0xf176, 0x10), (0xf177, 0x45),
  (0xf178, 0xc9), (0xf179, 0x38), (0xf17a, 0x71), (0xf17b, 0x28), (0xf17d, 0x13), (0xf17e, 0x90), (0xf17f, 0xbe),
  (0xf182, 0x58), (0xf183, 0x6f), (0xf186, 0x00), (0xf187, 0xe9), (0xf188, 0x4d), (0xf1b3, 0x39), (0xf1b4, 0x12),
  (0xf1b5, 0x04), (0xf1b6, 0xc2), (0xf1b7, 0x01), (0xf1b8, 0x07), (0xf1c2, 0x00), (0xf1c3, 0x00), (0xf1c8, 0x00),
  (0xf1df, 0x00), (0xf200, 0x00), (0xf201, 0x14), (0xf204, 0x54), (0xf206, 0x99), (0xf207, 0x58), (0xf208, 0x0a),
  (0xf209, 0x09), (0xf20a, 0x09), (0xf20b, 0x0a), (0xf20c, 0xfd), (0xf20d, 0xfd), (0xf20e, 0x00), (0xf20f, 0x00),
  (0xf210, 0x00), (0xf211, 0x10), (0xf212, 0x10), (0xf213, 0x80), (0xf214, 0xc9), (0xf215, 0x3b), (0xf216, 0x5c),
  (0xf217, 0x40), (0xf21b, 0x1c), (0xf21c, 0x00), (0xf21d, 0x80), (0xf21e, 0x08), (0xf21f, 0x04), (0xf220, 0x78),
  (0xf221, 0x8c), (0xf222, 0xaa), (0xf224, 0x10), (0xf225, 0x01), (0xf226, 0x00), (0xf227, 0x00), (0xf228, 0x00),
  (0xf229, 0x00), (0xf22a, 0x00), (0xf22b, 0x00), (0xf22c, 0x5b), (0xf22d, 0x38), (0xf22e, 0x58), (0xf22f, 0x38),
  (0xf230, 0x38), (0xf231, 0x38), (0xf232, 0x38), (0xf233, 0x38), (0xf234, 0x47), (0xf235, 0x38), (0xf236, 0x1c),
  (0xf237, 0x74), (0xf238, 0x46), (0xf239, 0x2b), (0xf23a, 0x1a), (0xf23b, 0x00), (0xf23c, 0x00), (0xf23d, 0x79),
  (0xf23e, 0x1c), (0xf23f, 0xd0), (0xf240, 0xb8), (0xf241, 0xf9), (0xf242, 0x0e), (0xf243, 0x69), (0xf244, 0x01),
  (0xf245, 0xf5), (0xf246, 0xf1), (0xf247, 0x97), (0xf248, 0x01), (0xf249, 0xf5), (0xf24a, 0x03), (0xf24b, 0x8e),
  (0xf24c, 0x01), (0xf24d, 0xf5), (0xf24e, 0x00), (0xf24f, 0xb6), (0xf250, 0xd3), (0xf251, 0x68), (0xf252, 0x68),
  (0xf253, 0x1e), (0xf254, 0x08), (0xf255, 0x20), (0xf256, 0xd0), (0xf257, 0xa0), (0xf258, 0x80), (0xf259, 0x88),
  (0xf25a, 0x80), (0xf25b, 0x80), (0xf25d, 0x06), (0xf25e, 0x38), (0xf25f, 0xe3), (0xf260, 0x3f), (0xf261, 0xff),
  (0xf262, 0x2e), (0xf263, 0x39), (0xf264, 0x38), (0xf265, 0xe3), (0xf266, 0x00), (0xf267, 0x00), (0xf268, 0x00),
  (0xf269, 0x00), (0xf26a, 0x00), (0xf26b, 0xe4), (0xf26c, 0x00), (0xf26d, 0x10), (0xf26f, 0x41), (0xf270, 0x00),
  (0xf271, 0x00), (0xf272, 0x00), (0xf273, 0x00), (0xf274, 0x00), (0xf275, 0x00), (0xf276, 0x00), (0xf277, 0x00),
  (0xf278, 0x00), (0xf279, 0x00), (0xf27a, 0x00), (0xf27b, 0x00), (0xf27c, 0x00), (0xf27d, 0x00), (0xf27e, 0x00),
  (0xf27f, 0x00), (0xf280, 0xff), (0xf281, 0xff), (0xf282, 0xff), (0xf283, 0xff), (0xf284, 0xff), (0xf285, 0xff),
  (0xf286, 0xff), (0xf287, 0xff), (0xf288, 0xff), (0xf289, 0xff), (0xf28a, 0xff), (0xf28b, 0xff), (0xf28c, 0x00),
  (0xf28d, 0x00), (0xf28e, 0x00), (0xf28f, 0x00), (0xf290, 0x06), (0xf291, 0xe5), (0xf292, 0x02), (0xf293, 0x00),
  (0xf294, 0x00), (0xf295, 0x00), (0xf297, 0x0b), (0xf298, 0x0a), (0xf299, 0x49), (0xf29a, 0x48), (0xf29c, 0x84),
  (0xf29d, 0x84), (0xf29e, 0x84), (0xf29f, 0x84), (0xf2ac, 0x00), (0xf2ad, 0x00), (0xf2ae, 0x01), (0xf2b0, 0xff),
  (0xf2b1, 0xfc), (0xf2b2, 0x00), (0xf2b3, 0x00), (0xf2b4, 0x00), (0xf2b5, 0x00), (0xf2b6, 0x00), (0xf2b7, 0xc0),
  (0xf2b8, 0x00), (0xf2b9, 0x00), (0xf2ba, 0xc0), (0xf2bb, 0x00), (0xf2bc, 0x00), (0xf2bd, 0x00), (0xf2be, 0x00),
  (0xf2bf, 0x0f), (0xf2c0, 0x98), (0xf2c1, 0x30), (0xf2c2, 0xac), (0xf2c3, 0x50), (0xf2c4, 0x00), (0xf2c5, 0x64),
  (0xf2c6, 0x29), (0xf2c7, 0x00), (0xf2c8, 0x00), (0xf2c9, 0x00), (0xf2ca, 0x00), (0xf2cb, 0x00), (0xf2cc, 0x00),
  (0xf2cd, 0x00), (0xf2ce, 0x00), (0xf2cf, 0x00), (0xf2d0, 0x00), (0xf2d1, 0x00), (0xf2d2, 0x00), (0xf2d3, 0x00),
  (0xf2d4, 0x00), (0xf2d5, 0x00), (0xf2d6, 0x00), (0xf2d7, 0x00), (0xf2d8, 0x71), (0xf2e1, 0x02), (0xf300, 0x00),
  (0xf301, 0x00), (0xf302, 0x00), (0xf303, 0x00), (0xf304, 0x00), (0xf305, 0x00), (0xf306, 0x00), (0xf307, 0x71),
  (0xf309, 0x60), (0xf30a, 0x69), (0xf30b, 0x80), (0xf30c, 0x35), (0xf30d, 0x28), (0xf30e, 0x26), (0xf30f, 0x86),
  (0xf320, 0x00), (0xf322, 0xc0), (0xf323, 0xd2), (0xf324, 0x3b), (0xf325, 0x46), (0xf332, 0x80), (0xf333, 0x00),
  (0xf334, 0xd7), (0xf335, 0x85), (0xf336, 0x58), (0xf337, 0x3a), (0xf338, 0x34), (0xf339, 0x28), (0xf33a, 0x0d),
  (0xf33b, 0xff), (0xf33c, 0x2f), (0xf33d, 0x00), (0xf33e, 0xa6), (0xf33f, 0xd7), (0xf340, 0x27), (0xf341, 0x32),
  (0xf342, 0x32), (0xf343, 0x32), (0xf344, 0x32), (0xf345, 0x50), (0xf346, 0x00), (0xf347, 0x00), (0xf400, 0x00),
  (0xf401, 0x14), (0xf404, 0x54), (0xf406, 0x99), (0xf407, 0x58), (0xf408, 0x0a), (0xf409, 0x09), (0xf40a, 0x09),
  (0xf40b, 0x0a), (0xf40c, 0xfd), (0xf40d, 0xfd), (0xf40e, 0x00), (0xf40f, 0x00), (0xf410, 0x00), (0xf411, 0x10),
  (0xf414, 0xc9), (0xf415, 0x3b), (0xf416, 0x5c), (0xf417, 0x40), (0xf41e, 0x08), (0xf41f, 0x04), (0xf420, 0x78),
  (0xf421, 0x8c), (0xf422, 0xaa), (0xf424, 0x10), (0xf425, 0x01), (0xf426, 0x00), (0xf427, 0x00), (0xf428, 0x00),
  (0xf429, 0x00), (0xf42a, 0x00), (0xf42b, 0x00), (0xf42c, 0x5b), (0xf42d, 0x38), (0xf42e, 0x58), (0xf42f, 0x38),
  (0xf430, 0x38), (0xf431, 0x38), (0xf432, 0x38), (0xf433, 0x38), (0xf434, 0x47), (0xf435, 0x38), (0xf436, 0x1c),
  (0xf437, 0x74), (0xf438, 0x46), (0xf439, 0x2b), (0xf43a, 0x1a), (0xf43b, 0x00), (0xf43c, 0x00), (0xf43d, 0x79),
  (0xf43e, 0x1c), (0xf43f, 0xd0), (0xf440, 0xb8), (0xf441, 0xf9), (0xf442, 0x0e), (0xf443, 0x69), (0xf444, 0x01),
  (0xf445, 0xf5), (0xf446, 0xf1), (0xf447, 0x97), (0xf448, 0x01), (0xf449, 0xf5), (0xf44a, 0x03), (0xf44b, 0x8e),
  (0xf44c, 0x01), (0xf44d, 0xf5), (0xf44e, 0x00), (0xf44f, 0xb6), (0xf450, 0xd3), (0xf451, 0x68), (0xf452, 0x68),
  (0xf453, 0x1e), (0xf454, 0x08), (0xf455, 0x20), (0xf456, 0xd0), (0xf457, 0xa0), (0xf458, 0x80), (0xf459, 0x88),
  (0xf45a, 0x80), (0xf45d, 0x06), (0xf45e, 0x38), (0xf45f, 0xe3), (0xf460, 0x3f), (0xf461, 0xff), (0xf462, 0x2e),
  (0xf463, 0x39), (0xf464, 0x38), (0xf465, 0xe3), (0xf466, 0x00), (0xf467, 0x00), (0xf468, 0x00), (0xf469, 0x00),
  (0xf46a, 0x00), (0xf46f, 0x41), (0xf470, 0x00), (0xf471, 0x00), (0xf472, 0x00), (0xf473, 0x00), (0xf474, 0x00),
  (0xf475, 0x00), (0xf476, 0x00), (0xf477, 0x00), (0xf478, 0x00), (0xf479, 0x00), (0xf47a, 0x00), (0xf47b, 0x00),
  (0xf47c, 0x00), (0xf47d, 0x00), (0xf47e, 0x00), (0xf47f, 0x00), (0xf480, 0xff), (0xf481, 0xff), (0xf482, 0xff),
  (0xf483, 0xff), (0xf484, 0xff), (0xf485, 0xff), (0xf486, 0xff), (0xf487, 0xff), (0xf488, 0xff), (0xf489, 0xff),
  (0xf48a, 0xff), (0xf48b, 0xff), (0xf48c, 0x00), (0xf48d, 0x00), (0xf48e, 0x00), (0xf48f, 0x00), (0xf490, 0x06),
  (0xf491, 0xe5), (0xf492, 0x02), (0xf493, 0x00), (0xf494, 0x00), (0xf495, 0x00), (0xf497, 0x0b), (0xf498, 0x0a),
  (0xf499, 0x49), (0xf49a, 0x48), (0xf49c, 0x84), (0xf49d, 0x84), (0xf49e, 0x84), (0xf49f, 0x84), (0xf4ac, 0x00),
  (0xf4ad, 0x00), (0xf4ae, 0x01), (0xf4b0, 0xff), (0xf4b1, 0xfc), (0xf4b2, 0x00), (0xf4b3, 0x00), (0xf4b4, 0x00),
  (0xf4b5, 0x00), (0xf4b6, 0x00), (0xf4b7, 0xc0), (0xf4b8, 0x00), (0xf4b9, 0x00), (0xf4ba, 0xc0), (0xf4bb, 0x00),
  (0xf4bc, 0x00), (0xf4bd, 0x00), (0xf4be, 0x00), (0xf4bf, 0x0f), (0xf4c0, 0x98), (0xf4c1, 0x30), (0xf4c2, 0xac),
  (0xf4c3, 0x50), (0xf4c4, 0x00), (0xf4c5, 0x64), (0xf4c6, 0x29), (0xf4c7, 0x00), (0xf4c8, 0x00), (0xf4c9, 0x00),
  (0xf4ca, 0x00), (0xf4cb, 0x00), (0xf4cc, 0x00), (0xf4cd, 0x00), (0xf4ce, 0x00), (0xf4cf, 0x00), (0xf4d0, 0x00),
  (0xf4d1, 0x00), (0xf4d2, 0x00), (0xf4d3, 0x00), (0xf4d4, 0x00), (0xf4d5, 0x00), (0xf4d6, 0x00), (0xf4d7, 0x00),
  (0xf4d8, 0x71), (0xf4e1, 0x02), (0xf500, 0x00), (0xf501, 0x00), (0xf502, 0x00), (0xf503, 0x00), (0xf504, 0x00),
  (0xf505, 0x00), (0xf506, 0x00), (0xf507, 0x71), (0xf509, 0x60), (0xf50a, 0x69), (0xf50b, 0x80), (0xf50c, 0x35),
  (0xf50d, 0x28), (0xf50e, 0x26), (0xf50f, 0x86), (0xf520, 0x00), (0xf522, 0xc0), (0xf523, 0xd2), (0xf524, 0x3b),
  (0xf525, 0x46), (0xf532, 0x80), (0xf533, 0x00), (0xf534, 0xd7), (0xf535, 0x85), (0xf536, 0x58), (0xf537, 0x3a),
  (0xf538, 0x34), (0xf539, 0x28), (0xf53a, 0x0d), (0xf53b, 0xff), (0xf53c, 0x2f), (0xf53d, 0x00), (0xf53e, 0xa6),
  (0xf53f, 0xd7), (0xf540, 0x27), (0xf541, 0x32), (0xf542, 0x32), (0xf543, 0x32), (0xf544, 0x32), (0xf545, 0x50),
  (0xf546, 0x00), (0xf547, 0x00), (0xf700, 0x00), (0xf702, 0x02), (0xf705, 0x00), (0xf706, 0xc0), (0xf708, 0x02),
  (0xf709, 0x8c), (0xf70a, 0x34), (0xf710, 0x00), (0xf714, 0x01), (0xf715, 0x2b), (0xf716, 0xa9), (0xf71c, 0x0f),
  (0xf71e, 0x01), (0xf71f, 0x14), (0xf740, 0x00), (0xf742, 0x02), (0xf745, 0x00), (0xf746, 0xc0), (0xf748, 0x02),
  (0xf749, 0x8c), (0xf74a, 0x34), (0xf750, 0x00), (0xf754, 0x01), (0xf755, 0x2b), (0xf756, 0xa9), (0xf75c, 0x0f),
  (0xf75e, 0x01), (0xf75f, 0x14), (0xfa00, 0x1c), (0xfa01, 0x19), (0xfa02, 0x17), (0xfa03, 0x18), (0xfa04, 0x13),
  (0xfa05, 0x19), (0xfa06, 0x18), (0xfa07, 0x17), (0xfa08, 0x16), (0xfa09, 0x1c), (0xfa0a, 0x1c), (0xfa0b, 0x13),
  (0xfa0c, 0x19), (0xfa0d, 0x18), (0xfa0e, 0x16), (0xfa0f, 0x1c), (0xfa10, 0x1c), (0xfa11, 0x19), (0xfa12, 0x18),
  (0xfa13, 0x17), (0xfa14, 0x16), (0xfa15, 0x1c), (0xfa16, 0x1c), (0xfa17, 0x18), (0xfa18, 0x17), (0xfa19, 0x16),
  (0xfa1a, 0x1c), (0xfa1b, 0x1c), (0xfa1c, 0x1b), (0xfa1d, 0x19), (0xfa1e, 0x17), (0xfa1f, 0x1a), (0xfa20, 0x13),
  (0xfa21, 0x19), (0xfa22, 0x1b), (0xfa23, 0x1d), (0xfa24, 0x1b), (0xfa25, 0x1c), (0xfa26, 0x13), (0xfa27, 0x19),
  (0xfa28, 0x1b), (0xfa29, 0x1b), (0xfa2a, 0x1c), (0xfa2b, 0x19), (0xfa2c, 0x1b), (0xfa2d, 0x1d), (0xfa2e, 0x1b),
  (0xfa2f, 0x1c), (0xfa30, 0x1b), (0xfa31, 0x1d), (0xfa32, 0x1b), (0xfa33, 0x1c), (0xfa34, 0x05), (0xfa35, 0x5b),
  (0xfa36, 0x96), (0xfa37, 0x00), (0xfa38, 0x00), (0xfa39, 0x00), (0xfa3a, 0x00), (0xfa40, 0x20), (0xfa41, 0x20),
  (0xfa42, 0x20), (0xfa43, 0x20), (0xfa44, 0x20), (0xfa45, 0x20), (0xfa46, 0x20), (0xfa47, 0x20), (0xfa48, 0x20),
  (0xfa49, 0x20), (0xfa4a, 0x20), (0xfa4b, 0x20), (0xfa4c, 0x20), (0xfa4d, 0x20), (0xfa4e, 0x20), (0xfa4f, 0x20),
  (0xfa50, 0x20), (0xfa51, 0x22), (0xfa52, 0x22), (0xfa53, 0x24), (0xfa54, 0x24), (0xfa55, 0x25), (0xfa56, 0x26),
  (0xfa57, 0x20), (0xfa58, 0x20), (0xfa59, 0x20), (0xfa5a, 0x20), (0xfa5b, 0x20), (0xfa5c, 0x20), (0xfa5d, 0x20),
  (0xfa5e, 0x20), (0xfa5f, 0x20), (0xfa60, 0x20), (0xfa61, 0x20), (0xfa62, 0x20), (0xfa63, 0x20), (0xfa64, 0x20),
  (0xfa65, 0x20), (0xfa66, 0x20), (0xfa67, 0x20), (0xfa68, 0x20), (0xfa69, 0x20), (0xfa6a, 0x20), (0xfa6b, 0x22),
  (0xfa6c, 0x22), (0xfa6d, 0x24), (0xfa6e, 0x24), (0xfa6f, 0x25), (0xfa70, 0x20), (0xfa71, 0x20), (0xfa72, 0x20),
  (0xfa73, 0x20), (0xfa80, 0x02), (0xfab1, 0x07), (0xfab6, 0x07), (0xfabc, 0x00), (0xfabd, 0x00), (0xfabe, 0x00),
  (0xfabf, 0x00), (0xfac0, 0x1c), (0xfac1, 0x19), (0xfac2, 0x17), (0xfac3, 0x18), (0xfac4, 0x13), (0xfac5, 0x19),
  (0xfac6, 0x18), (0xfac7, 0x17), (0xfac8, 0x16), (0xfac9, 0x1c), (0xfaca, 0x1c), (0xfacb, 0x13), (0xfacc, 0x19),
  (0xfacd, 0x18), (0xface, 0x16), (0xfacf, 0x1c), (0xfad0, 0x1c), (0xfad1, 0x19), (0xfad2, 0x18), (0xfad3, 0x17),
  (0xfad4, 0x16), (0xfad5, 0x1c), (0xfad6, 0x1c), (0xfad7, 0x18), (0xfad8, 0x17), (0xfad9, 0x16), (0xfada, 0x1c),
  (0xfadb, 0x1c), (0xfadc, 0x1b), (0xfadd, 0x19), (0xfade, 0x17), (0xfadf, 0x1a), (0xfae0, 0x13), (0xfae1, 0x19),
  (0xfae2, 0x1b), (0xfae3, 0x1d), (0xfae4, 0x1b), (0xfae5, 0x1c), (0xfae6, 0x13), (0xfae7, 0x19), (0xfae8, 0x1b),
  (0xfae9, 0x1b), (0xfaea, 0x1c), (0xfaeb, 0x19), (0xfaec, 0x1b), (0xfaed, 0x1d), (0xfaee, 0x1b), (0xfaef, 0x1c),
  (0xfaf0, 0x1b), (0xfaf1, 0x1d), (0xfaf2, 0x1b), (0xfaf3, 0x1c), (0xf572, 0x40), (0xf372, 0x40), (0xfa86, 0x15),
  (0xf11b, 0x55), (0xf579, 0x03), (0xf379, 0x03), (0xff20, 0x00), (0xff24, 0x00), (0xff28, 0x00), (0xff37, 0x00),
  (0xff40, 0x00), (0xff44, 0x00), (0xff48, 0x00), (0xff57, 0x00), (0xff6d, 0x00)]

/-- The table leaves the repeater off. -/
theorem initRegisters_repeater : ∀ entry ∈ stv0910InitRegisters, entry.1 = stv0910P1I2cRpt → entry.2 &&& 0x80 = 0 := by
  have checked : (stv0910InitRegisters.all fun entry => entry.1 != stv0910P1I2cRpt || entry.2 &&& 0x80 == 0) = true := by
    decide +kernel
  intro entry member repeater
  simpa [repeater] using List.all_eq_true.mp checked entry member

end WhRepeater
